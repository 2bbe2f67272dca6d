import Mathlib.Data.Int.Notation

/-!
# Codes

The numbers of the enumerations that several parts of the service compare with.

* `SESSION_CMD_PLAY`, `CAST_CONTROL_CMD_SEEK` and so on — the commands to a session and to a cast
  device.
* `LOOP_MODE_SEQUENCE` and so on — the loop modes.
* `AVSESSION_SUCCESS`, `AVSESSION_ERROR` — what a call returns.
-/

namespace AvSession.Common.Codes

/-! Source: avcontrol_command.h, SESSION_CMD_INVALID and the following. -/

def SESSION_CMD_INVALID : ℤ := -1
def SESSION_CMD_PLAY : ℤ := 0
def SESSION_CMD_PAUSE : ℤ := 1
def SESSION_CMD_STOP : ℤ := 2
def SESSION_CMD_PLAY_NEXT : ℤ := 3
def SESSION_CMD_PLAY_PREVIOUS : ℤ := 4
def SESSION_CMD_FAST_FORWARD : ℤ := 5
def SESSION_CMD_REWIND : ℤ := 6
def SESSION_CMD_SEEK : ℤ := 7
def SESSION_CMD_SET_SPEED : ℤ := 8
def SESSION_CMD_SET_LOOP_MODE : ℤ := 9
def SESSION_CMD_TOGGLE_FAVORITE : ℤ := 10
def SESSION_CMD_PLAY_FROM_ASSETID : ℤ := 11
def SESSION_CMD_MEDIA_KEY_SUPPORT : ℤ := 15
def SESSION_CMD_SET_TARGET_LOOP_MODE : ℤ := 16
def SESSION_CMD_PLAY_WITH_ASSETID : ℤ := 17
def SESSION_CMD_MAX : ℤ := 18

/-! Source: avcast_control_command.h, CAST_CONTROL_CMD_INVALID and the following. -/

def CAST_CONTROL_CMD_INVALID : ℤ := -1
def CAST_CONTROL_CMD_FAST_FORWARD : ℤ := 5
def CAST_CONTROL_CMD_REWIND : ℤ := 6
def CAST_CONTROL_CMD_SEEK : ℤ := 7
def CAST_CONTROL_CMD_SET_VOLUME : ℤ := 8
def CAST_CONTROL_CMD_SET_SPEED : ℤ := 9
def CAST_CONTROL_CMD_SET_LOOP_MODE : ℤ := 10
def CAST_CONTROL_CMD_MAX : ℤ := 14

/-! Source: avplayback_state.h, LOOP_MODE_UNDEFINED and the following. -/

def LOOP_MODE_UNDEFINED : ℤ := -1
def LOOP_MODE_SEQUENCE : ℤ := 0
def LOOP_MODE_CUSTOM : ℤ := 4

/-! Source: avsession_errors.h. -/

def AVSESSION_SUCCESS : ℤ := 0
def AVSESSION_ERROR : ℤ := -1

end AvSession.Common.Codes
