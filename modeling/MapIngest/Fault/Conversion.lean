import MapIngest.Value.Display

/-!
# Failed conversions

Dynamic values are converted to numbers, arrays, byte strings and mappings on
the way in.  Each way in which a conversion can fail is a cause of its own; a
handler tells the causes apart by their kind only.
-/

namespace MapIngest

/-- The kinds of failures that handlers tell apart. -/
inductive Kind where
  | runtime
  | value
  | type
  | key
  | lookup
  | index
  | attribute
  | overflow
  | zeroDivision
  | os
  | missingFile
  | directory
  | encoding
  | document
  | importing
  | missingModule
  | interrupt
  | validation
  | world
  | calibration
  | pose
  | plugin
  | engine
  | transform
  /-- A kind that no handler tells apart from the others. -/
  | other (label : String)
deriving DecidableEq

/-- The name of a kind in reports. -/
def Kind.label : Kind → String
  | .runtime => "RuntimeError"
  | .value => "ValueError"
  | .type => "TypeError"
  | .key => "KeyError"
  | .lookup => "LookupError"
  | .index => "IndexError"
  | .attribute => "AttributeError"
  | .overflow => "OverflowError"
  | .zeroDivision => "ZeroDivisionError"
  | .os => "OSError"
  | .missingFile => "FileNotFoundError"
  | .directory => "IsADirectoryError"
  | .encoding => "UnicodeDecodeError"
  | .document => "YAMLError"
  | .importing => "ImportError"
  | .missingModule => "ModuleNotFoundError"
  | .interrupt => "KeyboardInterrupt"
  | .validation => "ValidationError"
  | .world => "OctomapWorldError"
  | .calibration => "CalibrationError"
  | .pose => "TransformLookupError"
  | .plugin => "MapEngineLoadError"
  | .engine => "EngineFault"
  | .transform => "TransformException"
  | .other label => label

/-- The kind with a given name. -/
def Kind.named (label : String) : Kind :=
  (([.runtime, .value, .type, .key, .lookup, .index, .attribute, .overflow, .zeroDivision, .os,
      .missingFile, .directory, .encoding, .document, .importing, .missingModule, .interrupt,
      .validation, .world, .calibration, .pose, .plugin, .engine, .transform] : List Kind).find?
    (·.label == label)).getD (.other label)

/-- The kind with a given name has that name. -/
theorem Kind.label_named (label : String) : (Kind.named label).label = label := by
  unfold Kind.named
  cases found : List.find? (fun kind : Kind => kind.label == label) _ with
  | none => rfl
  | some kind => simpa using List.find?_some found

/-- The kinds that a handler of refused values catches. -/
def Kind.isValue : Kind → Bool
  | .value | .encoding | .validation => true
  | _ => false

/-- The kinds that a handler of failed look-ups catches. -/
def Kind.isLookup : Kind → Bool
  | .lookup | .key | .index => true
  | _ => false

/-- The kinds that a handler of failed imports catches. -/
def Kind.isImport : Kind → Bool
  | .importing | .missingModule => true
  | _ => false

/-- Why a conversion failed. -/
inductive Conversion where
  /-- A text does not spell a number. -/
  | numberText (content : String)
  /-- A value of this sort is no number. -/
  | numberSort (sort : String)
  /-- An integer lies beyond the range of doubles. -/
  | numberRange
  /-- A text does not spell an integer. -/
  | integerText (content : String)
  /-- A value of this sort is no integer. -/
  | integerSort (sort : String)
  /-- The result that is not a number has no integral part. -/
  | integerOfNaN
  /-- An infinity has no integral part. -/
  | integerOfInfinity
  /-- Nested lists do not form a rectangular array beyond these leading dimensions. -/
  | ragged (dimensions : List Nat)
  /-- Lists are nested deeper than an array can have dimensions. -/
  | nesting (most : Nat)
  /-- An array cannot be laid out in a shape; a size of the shape may be left open. -/
  | shape (size : Nat) (wanted : List (Option Nat))
  /-- A size of a shape is beyond the range of machine integers. -/
  | shapeRange
  /-- The size of an array in bytes is beyond the range of machine integers. -/
  | arraySize
  /-- A value of this sort has no items. -/
  | noItems (sort : String)
  /-- A value of this sort has no length. -/
  | noLength (sort : String)
  /-- A value of this sort is no byte string. -/
  | bytesSort (sort : String)
  /-- A number is no byte. -/
  | byteRange
  /-- A count of bytes is negative or beyond memory. -/
  | byteCount (huge : Bool)
  /-- A list or a mapping cannot be a key. -/
  | keySort (sort : String)
  /-- An element of a sequence of pairs is no pair of two. -/
  | pairLength (index length : Nat)
  /-- An element of a sequence of pairs is no sequence. -/
  | pairSort (index : Nat)
  /-- A name given to a record is not a text. -/
  | nameSort
  /-- A value of this sort is no mapping. -/
  | mappingSort (sort : String)
  /-- A message lacks a field. -/
  | noField (name : String)
  /-- A sequence is too short. -/
  | noItem
  /-- A table has no entry under a word. -/
  | noKey (word : String)
  /-- A quaternion has no direction. -/
  | zeroNorm
  /-- An array of quaternions does not end in four components. -/
  | quaternionShape
  /-- A field offset is negative. -/
  | negativeOffset (offset : Int)
  /-- A field offset or a record size is beyond the range of machine integers. -/
  | layoutOverflow
  /-- A field offset is no integer. -/
  | layoutSort
  /-- A record is smaller than the fields in it. -/
  | recordSize (needed given : Int)
  /-- A buffer is no whole number of elements. -/
  | bufferSize
  /-- A buffer holds fewer elements than are asked for. -/
  | bufferShort
  /-- More than one dimension of a shape is left open. -/
  | openShape
  /-- A relative module name has no module to start from. -/
  | relativeName
  /-- A calendar field is out of range. -/
  | calendar
  /-- A number is beyond the last character. -/
  | noCharacter
deriving DecidableEq

/-- The kind of a failed conversion. -/
def Conversion.kind : Conversion → Kind
  | .numberText _ | .integerText _ | .integerOfNaN | .ragged _ | .nesting _ | .shape _ _
  | .shapeRange | .arraySize | .byteRange
  | .byteCount false | .pairLength _ _ | .zeroNorm | .quaternionShape | .negativeOffset _
  | .recordSize _ _ | .bufferSize | .bufferShort | .openShape | .calendar
  | .noCharacter => .value
  | .numberSort _ | .integerSort _ | .noItems _ | .noLength _ | .bytesSort _ | .keySort _
  | .pairSort _ | .nameSort | .layoutSort | .relativeName => .type
  | .numberRange | .integerOfInfinity | .byteCount true | .layoutOverflow => .overflow
  | .mappingSort _ | .noField _ => .attribute
  | .noItem => .index
  | .noKey _ => .key

/-- Dimensions separated by commas. -/
def dimensionsText (dimensions : List Nat) : String :=
  ",".intercalate (dimensions.map fun (size : Nat) => Decimal.intText size)

/-- The sizes of a shape in brackets; open sizes in front are left out. -/
def shapeText (wanted : List (Option Nat)) : String :=
  let sizes := (wanted.dropWhile Option.isNone).map fun size? =>
    match size? with
    | some size => Decimal.intText size
    | none => "newaxis"
  "(" ++ ",".intercalate sizes ++ (if wanted.length = 1 then ",)" else ")")

/-- The text of a failed conversion. -/
def Conversion.text : Conversion → String
  | .numberText content => "could not convert string to float: " ++ Text.quoted content
  | .numberSort sort =>
    "float() argument must be a string or a real number, not '" ++ sort ++ "'"
  | .numberRange => "int too large to convert to float"
  | .integerText content =>
    "invalid literal for int() with base 10: " ++ Text.quoted content
  | .integerSort sort =>
    "int() argument must be a string, a bytes-like object or a real number, not '" ++
      sort ++ "'"
  | .integerOfNaN => "cannot convert float NaN to integer"
  | .integerOfInfinity => "cannot convert float infinity to integer"
  | .ragged dimensions =>
    "setting an array element with a sequence. The requested array has an " ++
      "inhomogeneous shape after " ++ Decimal.intText dimensions.length ++
      " dimensions. The detected shape was (" ++ dimensionsText dimensions ++
      (if dimensions.length = 1 then ",)" else ")") ++ " + inhomogeneous part."
  | .nesting most =>
    "setting an array element with a sequence. The requested array would exceed the " ++
      "maximum number of dimension of " ++ Decimal.intText most ++ "."
  | .shape size wanted =>
    "cannot reshape array of size " ++ Decimal.intText size ++ " into shape " ++
      shapeText wanted
  | .shapeRange => "Maximum allowed dimension exceeded"
  | .arraySize =>
    "array is too big; `arr.size * arr.dtype.itemsize` is larger than the maximum " ++
      "possible size."
  | .noItems sort => "'" ++ sort ++ "' object is not iterable"
  | .noLength sort => "object of type '" ++ sort ++ "' has no len()"
  | .bytesSort sort => "cannot convert '" ++ sort ++ "' object to bytes"
  | .byteRange => "bytes must be in range(0, 256)"
  | .byteCount huge => if huge then "count too large" else "negative count"
  | .keySort sort => "unhashable type: '" ++ sort ++ "'"
  | .pairLength index length =>
    "dictionary update sequence element #" ++ Decimal.intText index ++ " has length " ++
      Decimal.intText length ++ "; 2 is required"
  | .pairSort index =>
    "cannot convert dictionary update sequence element #" ++ Decimal.intText index ++
      " to a sequence"
  | .nameSort => "keywords must be strings"
  | .mappingSort sort => "'" ++ sort ++ "' object has no entries"
  | .noField name => "no field named " ++ Text.quoted name
  | .noItem => "index out of range"
  | .noKey word => Text.quoted word
  | .zeroNorm => "Found zero norm quaternions"
  | .quaternionShape => "a quaternion has four components"
  | .negativeOffset offset => "offset " ++ Decimal.intText offset ++ " cannot be negative"
  | .layoutOverflow => "integer too large for a machine word"
  | .layoutSort => "an integer is required"
  | .recordSize needed given =>
    "NumPy dtype descriptor requires " ++ Decimal.intText needed ++
      " bytes, cannot override to smaller itemsize of " ++ Decimal.intText given
  | .bufferSize => "buffer size must be a multiple of element size"
  | .bufferShort => "buffer is smaller than requested size"
  | .openShape => "can only specify one unknown dimension"
  | .relativeName => "a relative import needs a package"
  | .calendar => "calendar field out of range"
  | .noCharacter => "no character has this number"

end MapIngest
