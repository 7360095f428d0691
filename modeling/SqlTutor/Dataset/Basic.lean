import SqlTutor.Value

/-!
Datasets: tables in order, each a list of rows. Nothing ever changes a dataset that statements
are run on.
-/
namespace SqlTutor

abbrev Dataset := OrderedMap (List Row)

namespace Dataset

/-- The same tables in the same order, with equal rows. -/
def equal (d e : Dataset) : Bool :=
  d.agrees (fun rows others =>
    rows.length == others.length && (rows.zip others).all fun (r, s) => r.equal s) e

end Dataset

end SqlTutor
