import DiffBudget.Proofs.Patch.Reading
import DiffBudget.Proofs.Text.Lines
import Mathlib.Data.List.Induction
import Mathlib.Data.Nat.Digits.Defs

/-!
# The grammar of hunk headers

A header line is put together from numerals, three of which may be missing, and from a rest that
may be any text. The parts are separated by a comma or a space, so a line has one reading at most.
The reader accepts the lines of this form and no others, and gives the values of the numerals. A
patch is read unless one of its lines begins like a header and is not of this form.
-/
namespace DiffBudget.Hunk

/-- A run of ASCII digits whose value fits into 64 bits. It may begin with zeros. -/
@[ext]
structure Numeral where
  digits : Text
  ne_nil : digits ≠ []
  isDigit : ∀ c ∈ digits, Text.isDigit c = true
  lt : Nat.ofDigits 10 (digits.map Text.decimalDigit).reverse < 2 ^ 64

namespace Numeral

def value (d : Numeral) : Nat := Nat.ofDigits 10 (d.digits.map Text.decimalDigit).reverse

theorem valueIn_eq_ofDigits (ds : Text) : Text.valueIn 10 Text.decimalDigit ds =
    Nat.ofDigits 10 (ds.map Text.decimalDigit).reverse := by
  induction ds using List.reverseRecOn with
  | nil => rfl
  | append_singleton ds c ih =>
    rw [Text.valueIn, List.foldl_append, ← Text.valueIn, ih, List.map_append, List.reverse_append]
    simp [Nat.ofDigits_cons, Nat.mul_comm, Nat.add_comm]

theorem number?_eq_some_iff {ds : Text} {n : Nat} :
    Text.number? ds = some n ↔ ∃ d : Numeral, d.digits = ds ∧ d.value = n := by
  simp only [Text.number?, valueIn_eq_ofDigits]
  constructor
  · intro h
    split_ifs at h with hbad hfits
    simp only [Bool.or_eq_true, List.isEmpty_iff, List.any_eq_true, Bool.not_eq_true', not_or,
      not_exists, not_and, Bool.not_eq_false] at hbad
    exact ⟨⟨ds, hbad.1, hbad.2, Nat.lt_of_le_of_lt hfits (by decide)⟩, rfl, Option.some.inj h⟩
  · rintro ⟨d, rfl, rfl⟩
    have hgood : ¬(d.digits.isEmpty || d.digits.any (! Text.isDigit ·)) = true := by
      simpa [d.ne_nil] using d.isDigit
    have hfits : d.value ≤ maxNumber := Nat.le_of_lt_succ d.lt
    exact (if_neg hgood).trans (if_pos hfits)

theorem head?_append (d : Numeral) (t : Text) : (d.digits ++ t).head?.any Text.isDigit = true := by
  cases hdigits : d.digits with
  | nil => exact absurd hdigits d.ne_nil
  | cons c ds => simpa using d.isDigit c (hdigits ▸ List.mem_cons_self)

theorem append_inj {d e : Numeral} {t u : Text} (ht : ∀ c ∈ t.head?, Text.isDigit c = false)
    (hu : ∀ c ∈ u.head?, Text.isDigit c = false) (h : d.digits ++ t = e.digits ++ u) :
    d = e ∧ t = u := by
  have hdigits : d.digits = e.digits := by
    rw [← takeWhile_run d.isDigit ht, h, takeWhile_run e.isDigit hu]
  exact ⟨Numeral.ext hdigits, List.append_cancel_left (hdigits ▸ h)⟩

end Numeral

@[ext]
structure HeaderForm where
  oldStart : Numeral
  oldCount : Option Numeral
  newStart : Option Numeral
  newCount : Option Numeral
  rest : Text

namespace HeaderForm

def startPart : Option Numeral → Text
  | none => []
  | some d => d.digits

def countPart : Option Numeral → Text
  | none => []
  | some d => ',' :: d.digits

def line (f : HeaderForm) : Text :=
  "@@ -".toList ++ (f.oldStart.digits ++ (countPart f.oldCount ++ (" +".toList ++
    (startPart f.newStart ++ (countPart f.newCount ++ (" @@".toList ++ f.rest))))))

/-- What the parts say. A count that is missing is 1, but 0 where the new start is missing too,
and one leading space of the rest is no part of the comment. -/
def fields (f : HeaderForm) : Header where
  oldStart := f.oldStart.value
  oldCount := match f.oldCount with
    | some d => d.value
    | none => 1
  newStart := match f.newStart with
    | some d => d.value
    | none => 0
  newCount := match f.newStart, f.newCount with
    | _, some d => d.value
    | some _, none => 1
    | none, none => 0
  comment := match f.rest with
    | ' ' :: t => t
    | t => t

theorem countPart_head? (c : Option Numeral) {t : Text} (ht : t.head? = some ' ') :
    ∀ a ∈ (countPart c ++ t).head?, Text.isDigit a = false := by
  cases c with
  | none =>
    intro a ha
    rw [countPart, List.nil_append, ht] at ha
    cases ha
    decide
  | some d =>
    rintro a ⟨⟩
    decide

theorem startPart_append_inj {s s' : Option Numeral} {t t' : Text}
    (ht : ∀ c ∈ t.head?, Text.isDigit c = false) (ht' : ∀ c ∈ t'.head?, Text.isDigit c = false)
    (h : startPart s ++ t = startPart s' ++ t') : s = s' ∧ t = t' := by
  have absent : ∀ {d : Numeral} {t t' : Text}, (∀ c ∈ t.head?, Text.isDigit c = false) →
      t ≠ d.digits ++ t' := by
    rintro d t t' ht rfl
    have hhead := d.head?_append t'
    rw [Option.any_eq_true] at hhead
    obtain ⟨c, hc, hdigit⟩ := hhead
    rw [ht c hc] at hdigit
    cases hdigit
  cases s with
  | none =>
    cases s' with
    | none => exact ⟨rfl, h⟩
    | some d => exact absurd h (absent ht)
  | some d =>
    cases s' with
    | none => exact absurd h.symm (absent ht')
    | some e =>
      obtain ⟨rfl, rest⟩ := Numeral.append_inj ht ht' h
      exact ⟨rfl, rest⟩

theorem countPart_append_inj {c c' : Option Numeral} {t t' : Text} (ht : t.head? = some ' ')
    (ht' : t'.head? = some ' ') (h : countPart c ++ t = countPart c' ++ t') : c = c' ∧ t = t' := by
  have stop : ∀ {t : Text}, t.head? = some ' ' → ∀ a ∈ t.head?, Text.isDigit a = false :=
    fun ht => countPart_head? none ht
  cases c with
  | none =>
    cases c' with
    | none => exact ⟨rfl, h⟩
    | some d =>
      rw [show t = ',' :: (d.digits ++ t') from h] at ht
      cases ht
  | some d =>
    cases c' with
    | none =>
      rw [show t' = ',' :: (d.digits ++ t) from h.symm] at ht'
      cases ht'
    | some e =>
      obtain ⟨rfl, rest⟩ := Numeral.append_inj (stop ht) (stop ht') (List.cons.inj h).2
      exact ⟨rfl, rest⟩

theorem line_injective {f g : HeaderForm} (h : f.line = g.line) : f = g := by
  have hspace : ∀ t : Text, (" +".toList ++ t).head? = some ' ' := fun _ => rfl
  have hmarks : ∀ t : Text, (" @@".toList ++ t).head? = some ' ' := fun _ => rfl
  obtain ⟨holdStart, h⟩ := Numeral.append_inj (countPart_head? _ (hspace _))
    (countPart_head? _ (hspace _)) (List.append_cancel_left h)
  obtain ⟨holdCount, h⟩ := countPart_append_inj (hspace _) (hspace _) h
  obtain ⟨hnewStart, h⟩ := startPart_append_inj (countPart_head? _ (hmarks _))
    (countPart_head? _ (hmarks _)) (List.append_cancel_left h)
  obtain ⟨hnewCount, h⟩ := countPart_append_inj (hmarks _) (hmarks _) h
  exact HeaderForm.ext holdStart holdCount hnewStart hnewCount (List.append_cancel_left h)

end HeaderForm

namespace Header

open HeaderForm (startPart countPart countPart_head?)

theorem digits?_eq_some_iff {t r : Text} {n : Nat} : digits? t = some (n, r) ↔
    ∃ d : Numeral, t = d.digits ++ r ∧ d.value = n ∧ ∀ c ∈ r.head?, Text.isDigit c = false := by
  simp only [digits?, Option.map_eq_some_iff, Prod.mk.injEq, Numeral.number?_eq_some_iff]
  constructor
  · rintro ⟨_, ⟨d, hdigits, rfl⟩, rfl, rfl⟩
    refine ⟨d, ?_, rfl, fun c hc => ?_⟩
    · rw [hdigits, List.takeWhile_append_dropWhile]
    · have hnot := List.head?_dropWhile_not Text.isDigit t
      rw [Option.mem_def.mp hc] at hnot
      simpa using hnot
  · rintro ⟨d, rfl, rfl, hr⟩
    exact ⟨d.value, ⟨d, (takeWhile_run d.isDigit hr).symm, rfl⟩, rfl,
      dropWhile_run d.isDigit hr⟩

theorem start_startPart (s : Option Numeral) {r : Text}
    (hr : ∀ c ∈ r.head?, Text.isDigit c = false) :
    start (startPart s ++ r) = some (s.map Numeral.value, r) := by
  cases s with
  | none =>
    have hhead : ¬r.head?.any Text.isDigit = true := by
      rw [Option.any_eq_true]
      rintro ⟨c, hc, hdigit⟩
      rw [hr c hc] at hdigit
      cases hdigit
    exact if_neg hhead
  | some d =>
    rw [startPart, start, if_pos (d.head?_append r), digits?_eq_some_iff.mpr ⟨d, rfl, rfl, hr⟩]
    rfl

theorem exists_startPart {t r : Text} {s : Option Nat} (h : start t = some (s, r)) :
    ∃ d : Option Numeral, startPart d ++ r = t ∧ d.map Numeral.value = s := by
  rw [start] at h
  split at h
  · simp only [Option.map_eq_some_iff, Prod.exists, Prod.mk.injEq] at h
    obtain ⟨n, _, hdigits, rfl, rfl⟩ := h
    obtain ⟨d, rfl, rfl, -⟩ := digits?_eq_some_iff.mp hdigits
    exact ⟨some d, rfl, rfl⟩
  · cases h
    exact ⟨none, rfl, rfl⟩

theorem count_countPart (c : Option Numeral) {r : Text} (hr : r.head? = some ' ') :
    count (countPart c ++ r) = some (c.map Numeral.value, r) := by
  cases c with
  | none =>
    obtain ⟨r, rfl⟩ := List.head?_eq_some_iff.mp hr
    rfl
  | some d =>
    have hstop : ∀ a ∈ r.head?, Text.isDigit a = false := countPart_head? none hr
    rw [countPart, List.cons_append, count, digits?_eq_some_iff.mpr ⟨d, rfl, rfl, hstop⟩]
    rfl

theorem exists_countPart {t r : Text} {c : Option Nat} (h : count t = some (c, r)) :
    ∃ d : Option Numeral, countPart d ++ r = t ∧ d.map Numeral.value = c := by
  unfold count at h
  split at h
  · simp only [Option.map_eq_some_iff, Prod.exists, Prod.mk.injEq] at h
    obtain ⟨n, _, hdigits, rfl, rfl⟩ := h
    obtain ⟨d, rfl, rfl, -⟩ := digits?_eq_some_iff.mp hdigits
    exact ⟨some d, rfl, rfl⟩
  · cases h
    exact ⟨none, rfl, rfl⟩

theorem fields_eq (f : HeaderForm) : f.fields =
    { oldStart := f.oldStart.value
      oldCount := (f.oldCount.map Numeral.value).getD 1
      newStart := (f.newStart.map Numeral.value).getD 0
      newCount := (f.newCount.map Numeral.value).getD
        (if (f.newStart.map Numeral.value).isSome then 1 else 0)
      comment := commentOf f.rest } := by
  obtain ⟨oldStart, oldCount, newStart, newCount, rest⟩ := f
  cases oldCount <;> cases newStart <;> cases newCount <;> rfl

theorem read?_line {f : HeaderForm} (hline : '\n' ∉ f.line) : read? f.line = some f.fields := by
  have hspace : ∀ t : Text, (" +".toList ++ t).head? = some ' ' := fun _ => rfl
  have hmarks : ∀ t : Text, (" @@".toList ++ t).head? = some ' ' := fun _ => rfl
  have holdStart := fun t => digits?_eq_some_iff.mpr
    ⟨f.oldStart, rfl, rfl, countPart_head? f.oldCount (hspace t)⟩
  have hnewStart := fun t => start_startPart f.newStart (countPart_head? f.newCount (hmarks t))
  rw [read?, if_neg hline, HeaderForm.line, fields_eq]
  simp only [Text.isPrefixOf?_append, holdStart, hnewStart, count_countPart _ (hspace _),
    count_countPart _ (hmarks _), Option.bind_eq_bind, Option.bind_some]
  rfl

theorem exists_form {line : Text} {h : Header} (hread : read? line = some h) :
    ∃ f : HeaderForm, f.line = line ∧ f.fields = h := by
  have hline : '\n' ∉ line := by
    intro hline
    rw [read?, if_pos hline] at hread
    cases hread
  rw [read?, if_neg hline] at hread
  simp only [Option.bind_eq_bind, Option.bind_eq_some_iff, Prod.exists,
    List.isPrefixOf?_eq_some_iff_append_eq] at hread
  obtain ⟨_, rfl, oldStart, _, holdStart, oldCount, _, holdCount, _, rfl, newStart, _, hnewStart,
    newCount, _, hnewCount, rest, rfl, hfields⟩ := hread
  obtain ⟨d₁, rfl, rfl, -⟩ := digits?_eq_some_iff.mp holdStart
  obtain ⟨d₂, rfl, rfl⟩ := exists_countPart holdCount
  obtain ⟨d₃, rfl, rfl⟩ := exists_startPart hnewStart
  obtain ⟨d₄, rfl, rfl⟩ := exists_countPart hnewCount
  exact ⟨⟨d₁, d₂, d₃, d₄, rest⟩, rfl, (fields_eq _).trans (Option.some.inj hfields)⟩

theorem parse_ok_iff {line : Text} (hline : '\n' ∉ line) {h : Header} :
    parse line = .ok h ↔ ∃ f : HeaderForm, f.line = line ∧ f.fields = h := by
  rw [parse_eq_ok]
  constructor
  · exact exists_form
  · rintro ⟨f, rfl, rfl⟩
    exact read?_line hline

end Header

/-- The line begins like a header and is not of the form of one. -/
def FalseHeader (line : Text) : Prop := "@@".toList <+: line ∧ ∀ f : HeaderForm, f.line ≠ line

theorem isMalformed_iff {line : Text} (hline : '\n' ∉ line) :
    isMalformed line = true ↔ FalseHeader line := by
  have hnone : Header.read? line = none ↔ ∀ f : HeaderForm, f.line ≠ line := by
    rw [Option.eq_none_iff_forall_ne_some]
    constructor
    · rintro h f rfl
      exact h _ (Header.read?_line hline)
    · intro h fields hread
      obtain ⟨f, hf, -⟩ := Header.exists_form hread
      exact h f hf
  rw [isMalformed, Bool.and_eq_true, Option.isNone_iff_eq_none, hnone, isHeaderLine,
    List.isPrefixOf_iff_prefix, FalseHeader]

theorem isMalformed_iff_of_mem (patch : Text) :
    ∀ l ∈ patch.lines, (isMalformed l = true ↔ FalseHeader l) := fun l hl =>
  isMalformed_iff (Text.newline_not_mem_lines patch l hl)

theorem first_falseHeader_of_error {patch : Text} {e : FileFault}
    (h : Patch.parse patch = .error e) :
    ∃ front l back, patch.lines = front ++ l :: back ∧ (∀ l ∈ front, ¬FalseHeader l) ∧
      FalseHeader l ∧ e = .malformedHeader l := by
  have hspec := Patch.parse_spec patch
  cases hfind : patch.lines.find? isMalformed with
  | none =>
    rw [hfind] at hspec
    obtain ⟨hunks, hok⟩ := hspec
    rw [hok] at h
    cases h
  | some l =>
    rw [hfind] at hspec
    obtain ⟨hbad, front, back, hsplit, hfront⟩ := List.find?_eq_some_iff_append.mp hfind
    have hmem : ∀ m ∈ front ++ l :: back, (isMalformed m = true ↔ FalseHeader m) :=
      hsplit ▸ isMalformed_iff_of_mem patch
    refine ⟨front, l, back, hsplit, fun m hm hfalse => ?_, ?_, ?_⟩
    · have hgood := hfront m hm
      rw [(hmem m (List.mem_append_left _ hm)).mpr hfalse] at hgood
      cases hgood
    · exact (hmem l (by simp)).mp hbad
    · exact Except.error.inj (h.symm.trans hspec)

/-- The reader of headers accepts the lines of their form, each in its one reading, and a patch
fails at the first line that begins like a header and is not of this form. -/
theorem header_grammar_exact {line : Text} (hline : '\n' ∉ line) (patch : Text) :
    ((∃ h, Header.parse line = .ok h) ↔ ∃ f : HeaderForm, f.line = line) ∧
    (∀ f : HeaderForm, f.line = line →
      Header.parse line = .ok f.fields ∧ ∀ g : HeaderForm, g.line = line → g = f) ∧
    ((∃ e, Patch.parse patch = .error e) ↔ ∃ l ∈ patch.lines, FalseHeader l) ∧
    ∀ e, Patch.parse patch = .error e → ∃ front l back, patch.lines = front ++ l :: back ∧
      (∀ l ∈ front, ¬FalseHeader l) ∧ FalseHeader l ∧ e = .malformedHeader l := by
  refine ⟨?_, ?_, ?_, fun e => first_falseHeader_of_error⟩
  · constructor
    · rintro ⟨h, hparse⟩
      obtain ⟨f, hf, -⟩ := (Header.parse_ok_iff hline).mp hparse
      exact ⟨f, hf⟩
    · rintro ⟨f, hf⟩
      exact ⟨f.fields, (Header.parse_ok_iff hline).mpr ⟨f, hf, rfl⟩⟩
  · intro f hf
    exact ⟨(Header.parse_ok_iff hline).mpr ⟨f, hf, rfl⟩, fun g hg =>
      HeaderForm.line_injective (hg.trans hf.symm)⟩
  · rw [Patch.parse_fails_iff]
    exact exists_congr fun l => and_congr_right fun hl => isMalformed_iff_of_mem patch l hl

theorem header_grammar_exact_of_marks :
    '\n' ∉ "@@ -07 +,2 @@ fn @@".toList ∧
      (∃ f : HeaderForm, f.line = "@@ -07 +,2 @@ fn @@".toList ∧
        f.fields = ⟨7, 1, 0, 2, "fn @@".toList⟩ ∧
        ∀ g : HeaderForm, g.line = "@@ -07 +,2 @@ fn @@".toList → g = f) ∧
      ∃ l ∈ Text.lines "@@ -1 +1 @@\n+x\n@@ -1 @@\n@@@".toList, FalseHeader l := by
  have hline : '\n' ∉ "@@ -07 +,2 @@ fn @@".toList := by decide
  have hparse : Header.parse "@@ -07 +,2 @@ fn @@".toList =
      .ok ⟨7, 1, 0, 2, "fn @@".toList⟩ := by
    decide +kernel
  have hpatch : Patch.parse "@@ -1 +1 @@\n+x\n@@ -1 @@\n@@@".toList =
      .error (.malformedHeader "@@ -1 @@".toList) := by
    decide +kernel
  obtain ⟨hform, hread, hfails, -⟩ :=
    header_grammar_exact hline "@@ -1 +1 @@\n+x\n@@ -1 @@\n@@@".toList
  obtain ⟨f, hf⟩ := hform.mp ⟨_, hparse⟩
  obtain ⟨hfields, hunique⟩ := hread f hf
  exact ⟨hline, ⟨f, hf, Except.ok.inj (hfields.symm.trans hparse), hunique⟩,
    hfails.mp ⟨_, hpatch⟩⟩

end DiffBudget.Hunk
