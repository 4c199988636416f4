import DiffBudget.Unicode.Category
import DiffBudget.Unicode.Property
import DiffBudget.Unicode.Script

/-!
# Sets of characters by name

A set is asked for by one name, which may be a binary property, a general category or a script,
or by a property and a value. Case, spaces, underscores, hyphens and a leading `is` do not count.
-/
namespace DiffBudget.Unicode

/-- A set of characters, with the number of runs in its table as a measure of its size. -/
structure CharSet where
  has : Char → Bool
  runs : Nat

def plainName (name : Text) : Text :=
  let ascii := name.map Char.toLower
  let body := match ascii with
    | 'i' :: 's' :: r => r
    | r => r
  let kept := body.filter fun c => c.toNat < 128 && c != ' ' && c != '_' && c != '-'
  if kept = ['c'] ∧ body ≠ ascii then "isc".toList else kept

def valuedProperties : List Text :=
  ["gc".toList, "generalcategory".toList, "script".toList, "scx".toList,
   "scriptextensions".toList, "age".toList, "gcb".toList, "graphemeclusterbreak".toList,
   "sb".toList, "sentencebreak".toList, "wb".toList, "wordbreak".toList, "isc".toList]

def ofCategory? (name : Text) : Option CharSet :=
  if name = "any".toList then some ⟨fun _ => true, 1⟩
  else if name = "assigned".toList then some ⟨fun c => !inCategory "Cn".toList c, 700⟩
  else if name = "ascii".toList then some ⟨fun c => c.toNat < 128, 1⟩
  else (categoryNames.lookup name).map fun short => ⟨inCategory short, 300⟩

def ofScript? (name : Text) : Option CharSet :=
  (script? name).map fun short => ⟨inScript short, 30⟩

/-- The set of one name. Three short names are categories, though they are properties too. -/
def named? (name : Text) : Option CharSet :=
  let name := plainName name
  let isCategory := name = "cf".toList ∨ name = "sc".toList ∨ name = "lc".toList
  match if isCategory then none else property? name with
  | some r => some ⟨r.has, r.starts.size / 2⟩
  | none =>
    if ¬isCategory ∧ name ∈ valuedProperties then none
    else (ofCategory? name).or (ofScript? name)

def valued? (property value : Text) : Option CharSet :=
  let property := plainName property
  let value := plainName value
  if property = "gc".toList ∨ property = "generalcategory".toList then ofCategory? value
  else if property = "sc".toList ∨ property = "script".toList then ofScript? value
  else if property = "scx".toList ∨ property = "scriptextensions".toList then
    (script? value).map fun short => ⟨inScriptExtensions short, 30⟩
  else none

def isDecimal (c : Char) : Bool := category c == "Nd".toList

def isWordChar (c : Char) : Bool :=
  isAlphabetic c || inCategory ['M'] c || isDecimal c || category c == "Pc".toList ||
    c.toNat == 0x200C || c.toNat == 0x200D

end DiffBudget.Unicode
