import MapIngest.Yaml.Document

/-!
# Block mappings of one entry

A plain scalar is read as one node, and a block mapping whose only entry has a plain
key and a node as its value is read as that entry.  Applied from the inside to the
outside, the two read a document in which single entries are nested.
-/

namespace MapIngest.Yaml

def Node.plain (content : String) : Node :=
  .scalar (Tag.ofPlain content) content

/-- The node of a mapping whose only entry has a plain key. -/
def Node.entry (name : String) (value : Node) : Node :=
  .mapping .mapping [(.plain name, value)]

namespace Compose

theorem run_node_plain (block indentless : Bool) (steps : Nat) (content : String)
    (rest : List Token) (handles : List (String × String)) :
    (node block indentless (steps + 2)).run
        ⟨.scalar content true :: rest, [], handles⟩ =
      .ok (.plain content, ⟨rest, [], handles⟩) := rfl

/-- A block mapping of one entry is read as the entry. -/
theorem run_node_entry (indentless : Bool) (steps : Nat) (name : String)
    {inner rest : List Token} {handles : List (String × String)} {value : Node}
    (begins : endsPart inner.head? = false)
    (read : (node true true (steps + 2)).run ⟨inner, [], handles⟩ =
      .ok (value, ⟨.blockEnd :: rest, [], handles⟩)) :
    (node true indentless (steps + 6)).run
        ⟨.blockMapping :: .key :: .scalar name true :: .value :: inner, [], handles⟩ =
      .ok (.entry name value, ⟨rest, [], handles⟩) := by
  have part : (blockPart (steps + 3)).run ⟨inner, [], handles⟩ =
      .ok (value, ⟨.blockEnd :: rest, [], handles⟩) := by
    change (if endsPart inner.head? then pure blank else node true true (steps + 2) :
      Compose Node).run ⟨inner, [], handles⟩ = _
    rw [begins]
    exact read
  have entries : (blockEntries (steps + 4)).run
      ⟨.key :: .scalar name true :: .value :: inner, [], handles⟩ =
        .ok ([(.plain name, value)], ⟨.blockEnd :: rest, [], handles⟩) := by
    change (blockPart (steps + 3)).run ⟨inner, [], handles⟩ >>= (fun found =>
      (blockEntries (steps + 3)).run found.2 >>= fun others =>
        .ok ((Node.plain name, found.1) :: others.1, others.2)) = _
    rw [part]
    rfl
  have whole : (content true indentless none false (steps + 5)).run
      ⟨.blockMapping :: .key :: .scalar name true :: .value :: inner, [], handles⟩ =
        .ok (.entry name value, ⟨rest, [], handles⟩) := by
    change (blockEntries (steps + 4)).run
      ⟨.key :: .scalar name true :: .value :: inner, [], handles⟩ >>= (fun found =>
        (expect .blockEnd).run found.2 >>= fun ended =>
          .ok (Node.mapping .mapping found.1, ended.2)) = _
    rw [entries]
    rfl
  change (content true indentless none false (steps + 5)).run
      ⟨.blockMapping :: .key :: .scalar name true :: .value :: inner, [], handles⟩ >>=
        (fun found => .ok found) = _
  rw [whole]
  rfl

end Compose

/-- A document whose tokens begin a block mapping is the node that they are read as. -/
theorem ofTokens?_of_node {rest : List Token} {root : Node}
    (read : (Compose.node true false (3 * (rest.length + 1) + 8)).run
      ⟨.blockMapping :: rest, [], Compose.usualHandles⟩ =
        .ok (root, ⟨[], [], Compose.usualHandles⟩)) :
    Node.ofTokens? (.blockMapping :: rest) = .ok (some root) := by
  have found : (Compose.document? (3 * (rest.length + 1) + 8)).run
      { tokens := .blockMapping :: rest } =
        .ok (some root, ⟨[], [], Compose.usualHandles⟩) := by
    change (Compose.node true false (3 * (rest.length + 1) + 8)).run
      ⟨.blockMapping :: rest, [], Compose.usualHandles⟩ >>= (fun found =>
        (Compose.ends (3 * (rest.length + 1) + 8)).run found.2 >>= fun ended =>
          (if ended.2.tokens.head?.isSome then Compose.fail
            else pure (some found.1) : Compose (Option Node)).run ended.2) = _
    rw [read]
    rfl
  change (fun found => found.1) <$> (Compose.document? (3 * (rest.length + 1) + 8)).run
    { tokens := .blockMapping :: rest } = _
  rw [found]
  rfl

/-- A mapping of one entry with a textual key stands for the entry. -/
theorem toValue_entry (name : String) (textual : Tag.ofPlain name = .text) {node : Node}
    {value : Value} (inner : node.toValue = .ok value) :
    (Node.entry name node).toValue = .ok (.mapping [(.text name, value)]) := by
  have key : keyValue (.plain name) = .ok (.text name) := by
    rw [Node.plain, textual, keyValue, Node.toValue]
    · rfl
    · simp
  have entries : entryValues [(.plain name, node)] = .ok ⟨[], [(.text name, value)]⟩ := by
    have own : (Node.plain name).tag ≠ .merge := by simp [Node.plain, Node.tag, textual]
    rw [entryValues, if_neg own, key, inner, entryValues]
    rfl
  rw [Node.entry, Node.toValue, entries]
  rfl

/-- A document is loaded in four steps: its text, its tokens, its root and the value of that. -/
theorem load_eq_ok {content : String} {tokens : List Token} {root : Node} {value : Value}
    (decoded : Text.decode? content.toUTF8.toList = some content)
    (permitted : (plainBreaks content.toList).all isPermitted = true)
    (scanned : tokensOf (plainBreaks content.toList) = .ok tokens)
    (composed : Node.ofTokens? tokens = .ok (some root)) (read : root.toValue = .ok value) :
    load content.toUTF8.toList = .ok value := by
  rw [load, decoded]
  change valueOfText content.toList = _
  rw [valueOfText, if_pos permitted, scanned]
  change Node.ofTokens? tokens >>= _ = _
  rw [composed]
  exact read

end MapIngest.Yaml
