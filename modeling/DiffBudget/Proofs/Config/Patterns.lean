import DiffBudget.Config.Basic
import DiffBudget.Proofs.Regex.Anchoring

/-!
# Patterns that validation and filtering accept

Validation compiles every pattern as it stands, the filter compiles every regex inside a group
behind the start of the path and all globs together. The two agree on every regex that stays inside
its group, leaves the end of the group visible and is within the limits either way, if the globs are
within theirs.
-/
namespace DiffBudget

theorem exists_ok_iff {ε α : Type} (x : Except ε α) : (∃ a, x = .ok a) ↔ x.isOk = true := by
  cases x <;> simp [Except.isOk, Except.toBool]

namespace Regex

instance (t : Text) : Decidable (HidesEnd t) :=
  decidable_of_iff ((readWhole t).isOk = true ∧ (readWhole (t ++ [')'])).isOk = true)
    (by rw [HidesEnd, exists_ok_iff, exists_ok_iff])

structure FitsAnchored (limits : PatternLimits) (t : Text) : Prop where
  depth : ∀ n, readWhole t = .ok n → n.depth + 2 ≤ maxDepth
  size : limits.regexFits ("^(?:".toList ++ t ++ ")".toList) = true

instance (limits : PatternLimits) (t : Text) : Decidable (FitsAnchored limits t) :=
  decidable_of_iff
    (((readWhole t).toOption.all fun n => n.depth + 2 ≤ maxDepth) ∧
      limits.regexFits ("^(?:".toList ++ t ++ ")".toList) = true)
    (by
      refine Iff.trans (and_congr ?_ Iff.rfl) ⟨fun h => ⟨h.1, h.2⟩, fun h => ⟨h.depth, h.size⟩⟩
      cases readWhole t <;> simp [Except.toOption])

theorem parse_of_error {t : Text} {e : Fault} (h : readWhole t = .error e) :
    parse t = .error e := by
  rw [parse, h]
  rfl

theorem parse_of_ok {t : Text} {n : Node} (h : readWhole t = .ok n) :
    (∃ r, parse t = .ok r) ↔ n.depth ≤ maxDepth := by
  rw [parse, h]
  show (∃ r, n.limited = .ok r) ↔ _
  unfold Node.limited
  split
  · simp only [reduceCtorEq, exists_false, false_iff]
    omega
  · simp only [Except.ok.injEq, exists_eq', true_iff]
    omega

theorem parse_anchored_iff {t : Text} (h : ¬ClosesOutside t) :
    (∃ r, parse ("^(?:".toList ++ t ++ ")".toList) = .ok r) ↔
      (∃ r, parse t = .ok r) ∧ ¬HidesEnd t ∧ ∀ n, readWhole t = .ok n → n.depth + 2 ≤ maxDepth := by
  have hcases := anchored_readWhole t
  generalize halone : readWhole t = x at hcases
  generalize htied : readWhole ("^(?:".toList ++ t ++ ")".toList) = x' at hcases
  cases hcases with
  | outside houtside => exact absurd houtside h
  | hidden hhides n =>
    rw [parse_of_error htied]
    simp [hhides]
  | read hhides n =>
    rw [parse_of_ok htied, parse_of_ok halone]
    simp only [Except.ok.injEq, forall_eq']
    exact ⟨fun hdepth => ⟨by omega, hhides, hdepth⟩, fun hdepth => hdepth.2.2⟩
  | failed e e' =>
    rw [parse_of_error htied, parse_of_error halone]
    simp

end Regex

theorem PatternLimits.compile_ok_iff (limits : PatternLimits) (pattern : Text) :
    (∃ r, limits.compile pattern = .ok r) ↔
      (∃ r, Regex.parse pattern = .ok r) ∧ limits.regexFits pattern = true := by
  rw [PatternLimits.compile]
  cases Regex.parse pattern with
  | error e => simp [bind, Except.bind]
  | ok r => cases limits.regexFits pattern <;> simp [bind, Except.bind, pure, Except.pure, throw,
      throwThe, MonadExceptOf.throw]

/-! ## Lists of patterns -/

section lists

variable {ε α β : Type}

theorem mapM_ok_iff (f : α → Except ε β) (xs : List α) :
    (∃ ys, xs.mapM f = .ok ys) ↔ ∀ x ∈ xs, ∃ y, f x = .ok y := by
  induction xs with
  | nil => exact ⟨fun _ x hx => absurd hx List.not_mem_nil, fun _ => ⟨[], rfl⟩⟩
  | cons x xs ih =>
    rw [List.mapM_cons, List.forall_mem_cons, ← ih]
    cases f x with
    | error e => simp [bind, Except.bind]
    | ok y =>
      cases xs.mapM f with
      | error e => simp [bind, Except.bind]
      | ok ys => simp [bind, Except.bind, pure, Except.pure]

theorem mem_of_mapM_ok (f : α → Except ε β) {xs : List α} {ys : List β}
    (h : xs.mapM f = .ok ys) (y : β) : y ∈ ys ↔ ∃ x ∈ xs, f x = .ok y := by
  induction xs generalizing ys with
  | nil =>
    cases h
    simp
  | cons x xs ih =>
    rw [List.mapM_cons] at h
    cases hx : f x with
    | error e =>
      rw [hx] at h
      cases h
    | ok z =>
      cases hxs : xs.mapM f with
      | error e =>
        rw [hx, hxs] at h
        cases h
      | ok zs =>
        rw [hx, hxs] at h
        cases h
        simp only [List.mem_cons, ih hxs, exists_eq_or_imp, hx, Except.ok.injEq]
        exact or_congr eq_comm Iff.rfl

theorem forM_ok_iff (f : α → Except ε Unit) (xs : List α) :
    xs.forM f = .ok () ↔ ∀ x ∈ xs, f x = .ok () := by
  induction xs with
  | nil => exact ⟨fun _ x hx => absurd hx List.not_mem_nil, fun _ => rfl⟩
  | cons x xs ih =>
    rw [List.forall_mem_cons, ← ih]
    show (f x >>= fun _ => xs.forM f) = .ok () ↔ _
    cases f x with
    | error e => simp [bind, Except.bind]
    | ok u => simp [bind, Except.bind]

theorem both_ok_iff {γ : Type} (x : Except ε α) (y : Except ε β) (g : α → β → γ) :
    (∃ c, (x >>= fun a => y >>= fun b => .ok (g a b)) = .ok c) ↔
      (∃ a, x = .ok a) ∧ ∃ b, y = .ok b := by
  cases x <;> cases y <;> simp [bind, Except.bind]

end lists

theorem compileGlob_ok_iff (glob : Text) (ts : List Glob.Token) :
    compileGlob glob = .ok ts ↔ Glob.parse glob = .ok ts := by
  unfold compileGlob
  cases Glob.parse glob <;> simp [Except.mapError]

theorem compileRegex_ok_iff (limits : PatternLimits) (before pattern after : Text) :
    (∃ r, compileRegex limits before pattern after = .ok r) ↔
      (∃ r, Regex.parse (before ++ pattern ++ after) = .ok r) ∧
        limits.regexFits (before ++ pattern ++ after) = true := by
  rw [← limits.compile_ok_iff, compileRegex]
  cases limits.compile (before ++ pattern ++ after) <;> simp [Except.mapError]

namespace FileFilter

/-- The glob can be read, but no filter can be built of it. -/
def NestsTooDeep (glob : Text) : Prop :=
  ∃ ts, Glob.parse glob = .ok ts ∧ Glob.isTooDeep ts = true

instance (glob : Text) : Decidable (NestsTooDeep glob) :=
  decidable_of_iff ((Glob.parse glob).toOption.any Glob.isTooDeep)
    (by unfold NestsTooDeep; cases Glob.parse glob <;> simp [Except.toOption])

theorem mapM_compileGlob_shallow {globs : List Text} {read : List (List Glob.Token)}
    (h : globs.mapM compileGlob = .ok read) :
    read.findIdx? Glob.isTooDeep = none ↔ ∀ g ∈ globs, ¬NestsTooDeep g := by
  rw [List.findIdx?_eq_none_iff]
  constructor
  · rintro hall g hg ⟨ts, hts, hdeep⟩
    have hmem := (mem_of_mapM_ok _ h ts).mpr ⟨g, hg, (compileGlob_ok_iff g ts).mpr hts⟩
    rw [hall ts hmem] at hdeep
    cases hdeep
  · intro hall ts hts
    obtain ⟨g, hg, hparse⟩ := (mem_of_mapM_ok _ h ts).mp hts
    exact Bool.eq_false_iff.mpr fun hdeep =>
      hall g hg ⟨ts, (compileGlob_ok_iff g ts).mp hparse, hdeep⟩

theorem buildGlobs_ok_iff (limits : PatternLimits) (globs : List Text) :
    (∃ built, buildGlobs limits globs = .ok built) ↔
      (∀ g ∈ globs, ∃ ts, compileGlob g = .ok ts) ∧ (∀ g ∈ globs, ¬NestsTooDeep g) ∧
        limits.globsFit globs = true := by
  rw [← mapM_ok_iff, buildGlobs]
  cases hread : globs.mapM compileGlob with
  | error e => simp [bind, Except.bind]
  | ok read =>
    rw [← mapM_compileGlob_shallow hread]
    simp only [bind, Except.bind, Except.ok.injEq, exists_eq', true_and]
    cases read.findIdx? Glob.isTooDeep with
    | some place => simp [throw, throwThe, MonadExceptOf.throw]
    | none => cases limits.globsFit globs <;> simp [throw, throwThe, MonadExceptOf.throw, pure,
        Except.pure]

/-- The regex as the filter compiles it, with the text it is compiled from. -/
def compileAnchored (limits : PatternLimits) (pattern : Text) : Except Failure (Text × Regex) :=
  (compileRegex limits anchorStart pattern anchorEnd).map fun r =>
    (anchorStart ++ pattern ++ anchorEnd, r)

theorem compileAnchored_ok_iff (limits : PatternLimits) (pattern : Text) :
    (∃ p, compileAnchored limits pattern = .ok p) ↔
      (∃ r, Regex.parse (anchorStart ++ pattern ++ anchorEnd) = .ok r) ∧
        limits.regexFits (anchorStart ++ pattern ++ anchorEnd) = true := by
  rw [← compileRegex_ok_iff, compileAnchored]
  cases compileRegex limits anchorStart pattern anchorEnd <;> simp [Except.map]

theorem ofPatterns_eq (globs patterns : List Text) (limits : PatternLimits) :
    ofPatterns globs patterns limits = buildGlobs limits globs >>= fun built =>
      patterns.mapM (compileAnchored limits) >>= fun compiled => .ok ⟨built, compiled⟩ := rfl

theorem ofPatterns_ok_iff (globs patterns : List Text) (limits : PatternLimits) :
    (∃ f, ofPatterns globs patterns limits = .ok f) ↔
      ((∀ g ∈ globs, ∃ ts, compileGlob g = .ok ts) ∧ (∀ g ∈ globs, ¬NestsTooDeep g) ∧
        limits.globsFit globs = true) ∧
      ∀ p ∈ patterns, (∃ r, Regex.parse (anchorStart ++ p ++ anchorEnd) = .ok r) ∧
        limits.regexFits (anchorStart ++ p ++ anchorEnd) = true := by
  rw [ofPatterns_eq, both_ok_iff, buildGlobs_ok_iff, mapM_ok_iff]
  simp only [compileAnchored_ok_iff]

end FileFilter

namespace Config

variable {c : Config} {limits : PatternLimits}

theorem checkPatterns_ok_iff (c : Config) (limits : PatternLimits) :
    c.checkPatterns limits = .ok () ↔
      (∀ g ∈ c.ignoreGlobs, ∃ ts, compileGlob g = .ok ts) ∧
        ∀ p ∈ c.ignoreRegex, (∃ r, Regex.parse p = .ok r) ∧ limits.regexFits p = true := by
  have hglob : ∀ g, ((compileGlob g).map fun _ => ()) = .ok () ↔ ∃ ts, compileGlob g = .ok ts := by
    intro g
    cases compileGlob g <;> simp [Except.map]
  have hregex : ∀ p, ((compileRegex limits [] p []).map fun _ => ()) = .ok () ↔
      (∃ r, Regex.parse p = .ok r) ∧ limits.regexFits p = true := by
    intro p
    have hread := compileRegex_ok_iff limits [] p []
    rw [List.nil_append, List.append_nil] at hread
    rw [← hread]
    cases compileRegex limits [] p [] <;> simp [Except.map]
  have hforms := forM_ok_iff (fun g => (compileGlob g).map fun _ => ()) c.ignoreGlobs
  have hforms' := forM_ok_iff (fun r => (compileRegex limits [] r []).map fun _ => ()) c.ignoreRegex
  simp only [hglob] at hforms
  simp only [hregex] at hforms'
  rw [← hforms, ← hforms']
  unfold checkPatterns
  cases c.ignoreGlobs.forM fun g => (compileGlob g).map fun _ => () with
  | error e => simp [bind, Except.bind]
  | ok u => simp [bind, Except.bind]

theorem validate_ok_iff (hmodel : c.checkModel = .ok ()) (hlimits : c.checkLimits = .ok ())
    (hsuffixes : c.checkSuffixes = .ok ()) (globs patterns : List Text) :
    ({ c with ignoreGlobs := globs, ignoreRegex := patterns } : Config).validate limits = .ok () ↔
      (∀ g ∈ globs, ∃ ts, compileGlob g = .ok ts) ∧
        ∀ p ∈ patterns, (∃ r, Regex.parse p = .ok r) ∧ limits.regexFits p = true := by
  have hchecks : ({ c with ignoreGlobs := globs, ignoreRegex := patterns } : Config).validate
        limits =
      (c.checkModel >>= fun _ => c.checkLimits >>= fun _ => c.checkSuffixes >>= fun _ =>
        ({ c with ignoreGlobs := globs, ignoreRegex := patterns } : Config).checkPatterns
          limits) := rfl
  rw [hchecks, hmodel, hlimits, hsuffixes]
  exact checkPatterns_ok_iff _ limits

/-- Of a configuration that is valid otherwise, the filter accepts the patterns that validation
accepts, apart from a few kinds. A regex that closes the group around it, or that is within the
limits in its group only, is accepted by the filter at most. One that hides the end of the group or
exceeds a limit within it is accepted by validation at most, and so are globs that are nested too
deeply or too large together. -/
theorem filter_made_iff_valid (hmodel : c.checkModel = .ok ()) (hlimits : c.checkLimits = .ok ())
    (hsuffixes : c.checkSuffixes = .ok ()) (limits : PatternLimits) (globs patterns : List Text) :
    ((∃ f, FileFilter.ofPatterns globs patterns limits = .ok f) ∧
        ∀ p ∈ patterns, ¬Regex.ClosesOutside p ∧ limits.regexFits p = true) ↔
      ({ c with ignoreGlobs := globs, ignoreRegex := patterns } : Config).validate limits = .ok () ∧
        (∀ g ∈ globs, ¬FileFilter.NestsTooDeep g) ∧ limits.globsFit globs = true ∧
          ∀ p ∈ patterns, ¬Regex.HidesEnd p ∧ Regex.FitsAnchored limits p := by
  rw [FileFilter.ofPatterns_ok_iff, validate_ok_iff hmodel hlimits hsuffixes]
  constructor
  · rintro ⟨⟨⟨hglobs, hdeep, hset⟩, hregexes⟩, hinside⟩
    have hread : ∀ p ∈ patterns, ((∃ r, Regex.parse p = .ok r) ∧ limits.regexFits p = true) ∧
        ¬Regex.HidesEnd p ∧ Regex.FitsAnchored limits p := by
      intro p hp
      obtain ⟨hcompiled, hsize⟩ := hregexes p hp
      obtain ⟨halone, hhides, hdepth⟩ := (Regex.parse_anchored_iff (hinside p hp).1).mp hcompiled
      exact ⟨⟨halone, (hinside p hp).2⟩, hhides, hdepth, hsize⟩
    exact ⟨⟨hglobs, fun p hp => (hread p hp).1⟩, hdeep, hset, fun p hp => (hread p hp).2⟩
  · rintro ⟨⟨hglobs, hregexes⟩, hdeep, hset, hfits⟩
    have hinside : ∀ p ∈ patterns, ¬Regex.ClosesOutside p := by
      intro p hp houtside
      obtain ⟨r, hr⟩ := (hregexes p hp).1
      rw [Regex.parse_of_error houtside] at hr
      cases hr
    refine ⟨⟨⟨hglobs, hdeep, hset⟩, ?_⟩, fun p hp => ⟨hinside p hp, (hregexes p hp).2⟩⟩
    intro p hp
    obtain ⟨hhides, hdepth, hsize⟩ := hfits p hp
    exact ⟨(Regex.parse_anchored_iff (hinside p hp)).mpr ⟨(hregexes p hp).1, hhides, hdepth⟩, hsize⟩

theorem filter_made_of_remark :
    ∃ f, FileFilter.ofPatterns ["*.lock".toList] ["(?x)docs/ #all\n".toList, "build|out".toList]
      .estimated = .ok f := by
  have hvalid : ({ ignoreGlobs := ["*.lock".toList]
                   ignoreRegex := ["(?x)docs/ #all\n".toList, "build|out".toList] } :
      Config).validate .estimated = .ok () := by decide +kernel
  exact ((filter_made_iff_valid (c := {}) rfl rfl rfl .estimated _ _).mpr
    ⟨hvalid, by decide +kernel, by decide +kernel, by decide +kernel⟩).1

/-- The filter takes a regex that validation refuses, and refuses one that validation takes. -/
theorem filter_differs_from_validation :
    ((FileFilter.ofPatterns [] ["a)(?:b".toList] .estimated).isOk = true ∧
      (({ ignoreRegex := ["a)(?:b".toList] } : Config).validate .estimated).isOk = false) ∧
    (FileFilter.ofPatterns [] ["(?x)a #c".toList] .estimated).isOk = false ∧
      (({ ignoreRegex := ["(?x)a #c".toList] } : Config).validate .estimated).isOk = true := by
  decide +kernel

end Config

end DiffBudget
