import DiffBudget.Assembly.Basic
import DiffBudget.Text.JsonText

/-!
# Reports

An assembled diff is reported as its text alone, or as an object with all that is known of it.
-/
namespace DiffBudget.Assembled

def names (ns : List Text) : Text := JsonText.list 2 (ns.map JsonText.string)

def json (r : Assembled) : Text :=
  JsonText.object 0
    [("rendered_text".toList, JsonText.string r.text),
      ("fully_skipped_filenames".toList, names r.skipped),
      ("summarized_filenames".toList, names r.summarized),
      ("deleted_filenames".toList, names r.deleted),
      ("total_tokens".toList, Text.ofNat r.totalTokens),
      ("compressed".toList, JsonText.bool r.compressed)]

def report (asJson : Bool) (r : Assembled) : Text := if asJson then r.json else r.text

end DiffBudget.Assembled
