/-!
# The shipped configuration

The configuration that comes with the program, and where an installation
keeps it.  It spells out the default of every parameter.
-/

namespace MapIngest.Config

/-- The lines of the shipped configuration. -/
def shippedLines : List String :=
  [ "octomap_manager:",
    "  ros__parameters:",
    "    tf_frame: \"world\"",
    "    map_engine: \"\"",
    "    resolution: 0.15",
    "    probability_hit: 0.65",
    "    probability_miss: 0.4",
    "    threshold_min: 0.12",
    "    threshold_max: 0.97",
    "    threshold_occupancy: 0.7",
    "    filter_speckles: true",
    "    sensor_max_range: 5.0",
    "    visualize_min_z: -1.0e+9",
    "    visualize_max_z: 1.0e+9",
    "    full_image_width: 752",
    "    full_image_height: 480",
    "    map_publish_frequency: 0.0",
    "    tf_timeout_sec: 0.05",
    "    status_publish_period_sec: 5.0" ]

/-- The text of the shipped configuration. -/
def shipped : String :=
  "\n".intercalate shippedLines ++ "\n"

/-- The steps from a share directory, or from the sources, to the shipped configuration. -/
def shippedSteps : List String :=
  ["config", "octomap_manager.yaml"]

end MapIngest.Config
