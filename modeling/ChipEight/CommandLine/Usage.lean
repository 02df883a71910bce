/-
# Usage

What the program tells about itself when its arguments are rejected.
-/

namespace ChipEight.CommandLine

/-- The version of the program. -/
def version : String := "0.3.0"

/-- The description of the arguments, line by line. -/
def usageLines : List String :=
  ["Chip8 v" ++ version,
   "",
   "usage: chip8 run FILE [OPTIONS]",
   "",
   "options:",
   "    --frames N      Number of frames to run before printing the screen (default 600)",
   "    --speed N       Instructions executed per frame (default 10)",
   "    --keys KEYS     Keys to type, one per frame, by default on the QWERTY layout",
   "                        1 2 3 4",
   "                        Q W E R",
   "                        A S D F",
   "                        Z X C V",
   "    --keymap FILE   YAML file mapping typed keys to the keypad",
   "    --config FILE   YAML file with VM configuration",
   "",
   "examples:",
   "    chip8 run breakout.rom",
   "    chip8 run breakout.rom --frames 120 --keys qqqeee",
   ""]

/-- The description of the arguments. -/
def usage : String := String.join (usageLines.map (· ++ "\n"))

end ChipEight.CommandLine
