import FleetArena.Text.Message

/-! Reports: a line of text for a frame. -/
namespace FleetArena

open Text Decimal

/-- A text with blanks before it up to a width. -/
def Text.alignRight (width : Nat) (s : String) : String :=
  String.ofList (List.replicate (width - s.length) ' ') ++ s

/-- Time, number of objects, number of removed objects and scores. -/
def Frame.report (f : Frame Float) : String :=
  let scores := f.scores.entries.map fun e => e.1 ++ " " ++ hundredths e.2
  "  ".intercalate [
    "t=" ++ alignRight 7 (hundredths f.time) ++ "s",
    "objects=" ++ alignRight 3 (toString (f.new.length + f.updated.length)),
    "removed=" ++ alignRight 2 (toString f.deleted.length),
    "  ".intercalate scores]

/-- A frame is reported every thousand ticks. -/
def Frame.isReported (f : Frame Float) : Bool :=
  f.tick % 1000 == 0

end FleetArena
