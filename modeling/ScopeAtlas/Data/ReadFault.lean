/-!
# Faults of documents

Why a document cannot be read.  Most faults break a rule of the format; the others
are scalars that have the form of a kind but no value of it.
-/

namespace ScopeAtlas.Data

/-- Why a document cannot be read. -/
inductive ReadFault where
  /-- The document breaks a rule of its format. -/
  | malformed
  /-- A number or a moment is written that there is not. -/
  | valueRefused
  /-- A number is asked for and nothing is written. -/
  | numberMissing
  /-- A flag is asked for and something else is written. -/
  | flagUnknown
  /-- A moment is asked for and something else is written. -/
  | momentUnknown
  /-- A moment is asked for and a table is written. -/
  | momentNotScalar
  /-- The code of a character is beyond all bounds. -/
  | codeTooLarge
deriving Repr, DecidableEq, Inhabited

/-- Whole numbers with more decimal digits than this are refused. -/
def mostDigits : Nat := 4300

/-- What is there, or the document is malformed. -/
def orMalformed {α : Type} : Option α → Except ReadFault α
  | some value => .ok value
  | none => .error .malformed

end ScopeAtlas.Data
