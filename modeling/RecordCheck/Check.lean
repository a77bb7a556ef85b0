import RecordCheck.Record
import RecordCheck.Report
import RecordCheck.Run

/-!
# Checking records

`Run.validate` checks a record: it walks through the entries in order and reports, for each field
that fails, the first rule that failed.

The walk works with the rules and messages that the validator had when it began.  What custom
rules register on the way is there for rules that ask for a verdict, and for the next check.
-/

namespace RecordCheck

/-- Finds the first of some rules that a view does not satisfy; no rule after it is run. -/
def RuleTable.firstFailing (t : RuleTable) (ask : View → String → String → Run Bool)
    (value : View) : List Rule → Run (Option Rule)
  | [] => Run.pure none
  | r :: rs =>
    (t.evaluate ask value r.name r.param).bind fun passed =>
      if passed then t.firstFailing ask value rs else Run.pure (some r)

namespace Validator

/-- Checks a field with the rules and messages of a validator. -/
def checkField (v : Validator) (ask : View → String → String → Run Bool) (f : Field) :
    Run (Option Failure) :=
  (v.rules.firstFailing ask f.value.view (RuleLine.rules f.line)).bind fun failed =>
    match failed with
    | none => Run.pure none
    | some r =>
      (Run.note (.fieldFailed f.name r.name)).bind fun _ =>
        Run.pure (some
          (.render v.messages f.name f.displayLabel r.name r.param f.value.snapshot))

mutual

/-- Checks an entry with the rules and messages of a validator. -/
def checkEntry (v : Validator) (ask : View → String → String → Run Bool) :
    Entry → Run (List Failure)
  | .field f => (v.checkField ask f).bind fun failure => Run.pure failure.toList
  | .embedded entries => v.checkEntries ask entries

/-- Checks entries in order. -/
def checkEntries (v : Validator) (ask : View → String → String → Run Bool) :
    List Entry → Run (List Failure)
  | [] => Run.pure []
  | e :: es =>
    (v.checkEntry ask e).bind fun failures =>
      (v.checkEntries ask es).bind fun more => Run.pure (failures ++ more)

end

end Validator

/-- Checks a record: the failures in the order of the fields, or nothing to say.  Rules may ask one
another up to a depth. -/
def Run.validate (depth : Nat) (record : List Entry) : Run (Except Report Unit) :=
  Run.current.bind fun v =>
    (v.checkEntries (Run.evaluate depth) record).bind fun failures =>
      (Run.note (.recordChecked failures.length)).bind fun _ =>
        Run.pure (Report.outcome ⟨failures⟩)

end RecordCheck
