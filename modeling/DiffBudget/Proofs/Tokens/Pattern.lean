import DiffBudget.Proofs.Regex.Anchoring
import DiffBudget.Tokens.Pattern

/-!
# The pattern of the pieces

The kinds of pieces are the branches of one pattern. Its text is read here into an expression whose
classes are those of the pieces: the categories of letters and of numbers by their names, white
space, and what none of them holds.
-/
namespace DiffBudget

namespace Unicode

theorem named?_of_category {letter : Char} {name short : Text}
    (hplain : plainName [letter] = name)
    (hproperty : (propertyTables.find? (·.1.contains name)).isNone)
    (hvalued : name ∉ "any".toList :: "assigned".toList :: "ascii".toList :: "cf".toList ::
      "sc".toList :: "lc".toList :: valuedProperties)
    (hshort : categoryNames.lookup name = some short) :
    named? [letter] = some ⟨inCategory short, 300⟩ := by
  simp only [List.mem_cons, not_or] at hvalued
  obtain ⟨hany, hassigned, hascii, hcf, hsc, hlc, hvalued⟩ := hvalued
  have hnone : property? name = none := by
    rw [property?, Option.isNone_iff_eq_none.mp hproperty]
    rfl
  have hcategory : ofCategory? name = some ⟨inCategory short, 300⟩ := by
    rw [ofCategory?, if_neg hany, if_neg hassigned, if_neg hascii, hshort]
    rfl
  simp only [named?, hplain, hcf, hsc, hlc, or_self, if_false, hnone, hvalued, and_false,
    hcategory, Option.some_or]

theorem named?_letter : named? ['L'] = some ⟨inCategory ['L'], 300⟩ := by
  have hplain : plainName ['L'] = ['l'] := by decide +kernel
  refine named?_of_category hplain (by decide +kernel) (by decide +kernel) ?_
  unfold categoryNames categoryNameTable
  rw [String.toList_ofList]
  decide +kernel

theorem named?_number : named? ['N'] = some ⟨inCategory ['N'], 300⟩ := by
  have hplain : plainName ['N'] = ['n'] := by decide +kernel
  refine named?_of_category hplain (by decide +kernel) (by decide +kernel) ?_
  unfold categoryNames categoryNameTable
  rw [String.toList_ofList]
  decide +kernel

end Unicode

namespace Regex

variable {r : Reading} {fuel : Nat} {t : Text} {c : Char} {e : Regex} {depth : Nat}

theorem escape_property {letter : Char} {set : Unicode.CharSet}
    (hset : Unicode.named? [letter] = some set) (hplain : letter ∉ [':', '=', '\x7d'])
    (t : Text) :
    escape {} ('p' :: '\x7b' :: letter :: '\x7d' :: t) = .ok (.charClass (.named set), t) := by
  simp only [List.mem_cons, List.not_mem_nil, or_false, not_or] at hplain
  obtain ⟨hcolon, hequal, hbrace⟩ := hplain
  have hname : propertyName {} ('\x7b' :: letter :: '\x7d' :: t) = .ok ([letter], t) := by
    simp [propertyName, skip, upToBrace, hbrace]
  have hquery : propertyQuery [letter] = (false, some set) := by
    have hunequal : Text.cutFirst? "!=".toList [letter] = none := by
      simp [Text.cutFirst?, List.isPrefixOf?]
    have hvalue : Text.cutFirst? [':'] [letter] = none := by
      simp [Text.cutFirst?, List.isPrefixOf?, Ne.symm hcolon]
    have hvalue' : Text.cutFirst? ['='] [letter] = none := by
      simp [Text.cutFirst?, List.isPrefixOf?, Ne.symm hequal]
    simp only [propertyQuery, hunequal, hvalue, hvalue', hset]
  have hclass : propertyClass {} false [letter] = .ok (.named set) := by
    simp only [propertyClass, hquery]
    rfl
  have hescape : escape {} ('p' :: '\x7b' :: letter :: '\x7d' :: t) =
      propertyEscape {} false ('\x7b' :: letter :: '\x7d' :: t) := rfl
  rw [hescape, propertyEscape, hname]
  simp only [bind, Except.bind, hclass]
  rfl

theorem escape_blank (t : Text) : escape {} ('s' :: t) = .ok (.charClass (blankClass {}), t) := rfl

theorem readFrom_of_readItem {s t' : Text} {r' : Reading} (h : skip r.flags t = c :: s)
    (hitem : readItem r c s = .ok (r', t')) : readFrom (fuel + 1) r t = readFrom fuel r' t' := by
  rw [readFrom_item h, hitem]
  rfl

theorem readFrom_escape {set : CharClass} {s : Text} (hflags : r.flags = {})
    (h : escape {} s = .ok (.charClass set, t)) :
    readFrom (fuel + 1) r ('\\' :: s) = readFrom fuel (r.push ⟨.char set, 0⟩) t := by
  have hread : readItem r '\\' s = .ok (r.push ⟨.char set, 0⟩, t) := by
    have hitem : readItem r '\\' s = (escape r.flags s >>= fun p =>
        primitive r.flags p.1 >>= fun e => pure (r.pushRegex e, p.2)) := rfl
    rw [hitem, hflags, h]
    rfl
  exact readFrom_of_readItem (by rw [hflags]; rfl) hread

theorem classBody_escape {set k : CharClass} {s : Text} {left : Option (SetOp × CharClass)}
    {n : ClassNesting} {negated : Bool} (h : escape {} s = .ok (.charClass set, c :: t))
    (hc : c ≠ '-') :
    classBody {} (fuel + 1) negated left k n ('\\' :: s) =
      classBody {} fuel negated left (.anyOf k set) (n.add 0) (c :: t) := by
  have hoperator : setOperator? ('\\' :: s) = none := by
    cases s with
    | nil => rfl
    | cons d s => simp [setOperator?, setOp?]
  have hrange : classRange {} ('\\' :: s) = .ok (set, c :: t) := by
    have hitem : classRange {} ('\\' :: s) =
        (escape {} s >>= fun p => rangeFrom {} p.1 (skip {} p.2)) := rfl
    rw [hitem, h]
    exact rangeFrom_of_ne hc _ t
  rw [classBody_item (f := {}) (s := s) rfl (by decide) (by decide), hoperator]
  simp only [hrange]
  rfl

/-! ## The parts of the pattern -/

theorem readFrom_contraction (fuel : Nat) (t : Text) :
    readFrom (fuel + 20) {} ("'(?:s|t|re|ve|m|ll|d)|".toList ++ t) =
      readFrom fuel { branches := [⟨Piece.contraction, 4⟩] } t := rfl

theorem readFrom_space (hflags : r.flags = {}) (hc : c ≠ '?') (t : Text) :
    readFrom (fuel + 2) r (' ' :: '?' :: c :: t) =
      readFrom fuel (r.push ⟨optional (one ' '), 1⟩) (c :: t) := by
  obtain ⟨branches, items, flags, outer, names⟩ := r
  subst hflags
  rw [readFrom_of_readItem (c := ' ') (s := '?' :: c :: t) rfl rfl,
    readFrom_of_readItem (c := '?') (s := c :: t) rfl rfl, dropLazy_of_ne hc]
  rfl

theorem readFrom_repeated (hflags : r.flags = {}) (t : Text) :
    readFrom (fuel + 2) (r.push ⟨e, depth⟩) ('+' :: '|' :: t) =
      readFrom fuel (r.push ⟨.times e 1 none, depth + 1⟩).nextBranch t := by
  obtain ⟨branches, items, flags, outer, names⟩ := r
  subst hflags
  rfl

theorem readFrom_counted (hflags : r.flags = {}) (t : Text) :
    readFrom (fuel + 2) (r.push ⟨e, depth⟩)
        ('\x7b' :: '1' :: ',' :: '3' :: '\x7d' :: '|' :: t) =
      readFrom fuel (r.push ⟨.times e 1 (some 3), depth + 1⟩).nextBranch t := by
  obtain ⟨branches, items, flags, outer, names⟩ := r
  subst hflags
  have hcounts : counts {} ('1' :: ',' :: '3' :: '\x7d' :: '|' :: t) =
      .ok ((1, some 3), '|' :: t) := rfl
  have hitem : readItem (({ branches, items, outer, names } : Reading).push ⟨e, depth⟩) '\x7b'
      ('1' :: ',' :: '3' :: '\x7d' :: '|' :: t) =
        .ok (({ branches, items, outer, names } : Reading).push ⟨.times e 1 (some 3), depth + 1⟩,
          '|' :: t) := by
    rw [readItem_counts]
    exact (congrArg (· >>= _) hcounts).trans rfl
  rw [readFrom_of_readItem rfl hitem, readFrom_of_readItem (c := '|') (s := t) rfl rfl]

def symbolItems (t : Text) : Text :=
  '\\' :: 's' :: '\\' :: 'p' :: '\x7b' :: 'L' :: '\x7d' :: '\\' :: 'p' :: '\x7b' :: 'N' :: '\x7d' ::
    ']' :: t

theorem bracketed_symbolItems (t : Text) :
    bracketed {} ('^' :: symbolItems t) = .ok ((Piece.CharClass.symbol.set, 2), t) := by
  have hopening : classOpening {} ('^' :: symbolItems t) =
      ((true, .nothing, 0), symbolItems t) := rfl
  have hlength : ('^' :: symbolItems t).length + 1 = t.length + 11 + 1 + 1 + 1 + 1 := rfl
  have hbody : classBody {} (t.length + 11 + 1 + 1 + 1 + 1) true none .nothing {}
      (symbolItems t) = .ok ((Piece.CharClass.symbol.set, 2), t) := by
    rw [symbolItems, classBody_escape (escape_blank _) (by decide),
      classBody_escape (escape_property Unicode.named?_letter (by decide) _) (by decide),
      classBody_escape (escape_property Unicode.named?_number (by decide) _) (by decide),
      classBody_end (s := t) rfl]
    rfl
  rw [bracketed_eq, hopening, hlength]
  exact hbody

theorem readFrom_symbolItems (hflags : r.flags = {}) (t : Text) :
    readFrom (fuel + 1) r ('[' :: '^' :: symbolItems t) =
      readFrom fuel (r.push ⟨.char Piece.CharClass.symbol.set, 2⟩) t := by
  have hitem : readItem r '[' ('^' :: symbolItems t) =
      .ok (r.push ⟨.char Piece.CharClass.symbol.set, 2⟩, t) := by
    show (bracketed r.flags ('^' :: symbolItems t)).map _ = _
    rw [hflags, bracketed_symbolItems]
    rfl
  exact readFrom_of_readItem (by rw [hflags]; rfl) hitem

theorem readWhole_patternText : readWhole Piece.patternText = .ok ⟨Piece.pattern, 5⟩ := by
  have htext : Piece.patternText = "'(?:s|t|re|ve|m|ll|d)|".toList ++
      (' ' :: '?' :: '\\' :: 'p' :: '\x7b' :: 'L' :: '\x7d' :: '+' :: '|' ::
        ' ' :: '?' :: '\\' :: 'p' :: '\x7b' :: 'N' :: '\x7d' ::
        '\x7b' :: '1' :: ',' :: '3' :: '\x7d' :: '|' ::
        ' ' :: '?' :: '[' :: '^' :: symbolItems ('+' :: '|' :: '\\' :: 's' :: '+' :: [])) := rfl
  have hlength : Piece.patternText.length + 1 = 67 := rfl
  have hread : readFrom 67 {} Piece.patternText = .ok
      { branches := [⟨Piece.spaced (Piece.run .symbol), 4⟩,
          ⟨Piece.spaced (Piece.run .number), 2⟩, ⟨Piece.spaced (Piece.run .letter), 2⟩,
          ⟨Piece.contraction, 4⟩],
        items := [.node ⟨Piece.run .blank, 1⟩] } := by
    rw [htext, readFrom_contraction 47, readFrom_space rfl (by decide),
      readFrom_escape rfl (escape_property Unicode.named?_letter (by decide) _),
      readFrom_repeated rfl, readFrom_space rfl (by decide),
      readFrom_escape rfl (escape_property Unicode.named?_number (by decide) _),
      readFrom_counted rfl, readFrom_space rfl (by decide), readFrom_symbolItems rfl,
      readFrom_repeated rfl, readFrom_escape rfl (escape_blank _)]
    rfl
  rw [readWhole, hlength, hread]
  rfl

theorem parse_of_readWhole {n : Node} (h : readWhole t = .ok n) (hdepth : n.depth ≤ maxDepth) :
    parse t = .ok n.regex := by
  rw [parse, h]
  exact if_neg (Nat.not_lt.mpr hdepth)

theorem parse_patternText : parse Piece.patternText = .ok Piece.pattern :=
  parse_of_readWhole readWhole_patternText (by decide)

end Regex
end DiffBudget
