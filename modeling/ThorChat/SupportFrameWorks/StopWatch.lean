import Mathlib.Data.Int.Basic

/-!
# The Stop Watch

`TimeConvertMidel.swift`: a number of seconds split into clock fields. Division and remainder
of `Int` truncate toward zero.
-/

namespace ThorChat.SupportFrameWorks

/-- `StopWatch`. -/
structure StopWatch where
  totalSeconds : Int
  deriving DecidableEq, Repr

namespace StopWatch

def years (watch : StopWatch) : Int := watch.totalSeconds.tdiv 31536000

def days (watch : StopWatch) : Int := (watch.totalSeconds.tmod 31536000).tdiv 86400

def hours (watch : StopWatch) : Int := (watch.totalSeconds.tmod 86400).tdiv 3600

def minutes (watch : StopWatch) : Int := (watch.totalSeconds.tmod 3600).tdiv 60

def seconds (watch : StopWatch) : Int := watch.totalSeconds.tmod 60

/-- `timeText(from:)`. -/
def timeText (number : Int) : String :=
  if number < 10 then "0" ++ toString number else toString number

/-- `simpleTimeString`: minutes and seconds only. -/
def simpleTimeString (watch : StopWatch) : String :=
  timeText watch.minutes ++ ":" ++ timeText watch.seconds

end StopWatch

end ThorChat.SupportFrameWorks
