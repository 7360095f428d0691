import SqlTutor.Value

/-!
Calendar dates and how they are written.
-/
namespace SqlTutor

structure Date where
  year : Int
  month : Nat
  day : Nat
deriving DecidableEq

namespace Date

/-- The digits of a number, with zeros in front up to a number of places. -/
def padded (places n : Nat) : List Char :=
  let digits := Nat.toDigits 10 n
  List.replicate (places - digits.length) '0' ++ digits

/-- Years of four digits stand alone; all other years have a sign and at least four digits. -/
def yearText (year : Int) : List Char :=
  if 0 ≤ year ∧ year ≤ 9999 then padded 4 year.natAbs
  else (if year < 0 then '-' else '+') :: padded 4 year.natAbs

/-- Year, month and day with hyphens between them. -/
def text (d : Date) : String :=
  String.ofList (yearText d.year ++ '-' :: padded 2 d.month ++ '-' :: padded 2 d.day)

end Date

end SqlTutor
