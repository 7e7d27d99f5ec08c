import Reckon.Proofs.Decimal.Cohort
import Reckon.Proofs.Duration.Spelling
import Reckon.Proofs.Text.Quoting
import Reckon.Value.Text

/-!
# Values told by their texts

The text of a value tells its kind, by characters that other kinds do without, and
within its kind the value, apart from what a decimal is rounded off. It also tells where
it ends: strings go on to their closing quote, and no other text holds a blank or a
parenthesis.
-/

namespace Reckon

/-!
## The characters of texts
-/

/-- The characters beside digits that the texts of a kind are made of. Strings are left
out, between whose quotes any character can stand. -/
def Kind.marks : Kind -> List Char
  | .integer => ['-']
  | .decimal => ['-', '.', 'E', '+']
  | .boolean => ['t', 'r', 'u', 'e', 'f', 'a', 'l', 's']
  | .string => []
  | .duration => ['-', '.', 'n', '\u00b5', 'm', 's', 'h']

def IsDigitOr (marks : List Char) (c : Char) : Prop :=
  c.isDigit = true ∨ c ∈ marks

theorem Numeral.isDigitOr_of_mem_integerChars {n : Int} {c : Char} (h : c ∈ integerChars n) :
    IsDigitOr Kind.integer.marks c := by
  unfold integerChars at h
  split at h
  · rcases List.mem_cons.mp h with rfl | hdigit
    · exact .inr List.mem_cons_self
    · exact .inl (isDigit_of_mem_digits hdigit)
  · exact .inl (isDigit_of_mem_digits h)

theorem Scientific.isDigitOr_of_mem_chars {s : Scientific} {c : Char} (h : c ∈ s.chars) :
    IsDigitOr Kind.decimal.marks c := by
  have hsign : (if s.exponentNegative then '-' else '+') ∈ Kind.decimal.marks := by
    cases s.exponentNegative <;> decide
  simp only [chars, magnitudeChars, exponentChars, List.mem_append, List.mem_cons] at h
  rcases h with hminus | rfl | rfl | hfraction | rfl | rfl | hexponent
  · rw [Numeral.eq_of_mem_signChars hminus]
    exact .inr List.mem_cons_self
  · exact .inl s.isDigit_lead
  · exact .inr (by decide)
  · exact .inl (s.isDigit_fraction c hfraction)
  · exact .inr (by decide)
  · exact .inr hsign
  · exact .inl (s.isDigit_exponent c hexponent)

namespace Decimal

theorem isDigitOr_of_mem_chars {d : Decimal} {c : Char} (h : c ∈ d.chars) :
    IsDigitOr Kind.decimal.marks c := by
  rcases d.exists_spelledBy with ⟨s, hs⟩
  rw [hs.chars_eq] at h
  exact s.isDigitOr_of_mem_chars h

theorem mem_chars (d : Decimal) : 'E' ∈ d.chars := by
  rcases d.exists_spelledBy with ⟨s, hs⟩
  have hmark : 'E' ∈ s.exponentChars := List.mem_cons_self
  rw [hs.chars_eq, Scientific.chars, Scientific.magnitudeChars]
  simp [hmark]

end Decimal

namespace Duration

theorem TimeUnit.chars_subset_marks (unit : TimeUnit) :
    unit.chars ⊆ Kind.duration.marks := by
  cases unit <;> decide

theorem Component.Counts.isDigitOr_of_mem_chars {part : Component} {unit : TimeUnit} {n : Nat}
    (h : part.Counts unit n) {c : Char} (hc : c ∈ part.chars) :
    IsDigitOr Kind.duration.marks c := by
  rw [Component.chars, List.mem_append, List.mem_append, h.unit_eq] at hc
  rcases hc with hwhole | hplaces | hunit
  · exact .inl (h.isDigit_whole c hwhole)
  · unfold Numeral.pointChars at hplaces
    split at hplaces
    · cases hplaces
    · rcases List.mem_cons.mp hplaces with rfl | hfraction
      · exact .inr (by decide)
      · exact .inl (h.isDigit_fraction c hfraction)
  · exact .inr (unit.chars_subset_marks hunit)

theorem Spelled.isDigitOr_of_mem_chars {parts : List Component} {n : Nat}
    (h : Spelled parts n) {c : Char} (hc : c ∈ parts.flatMap Component.chars) :
    IsDigitOr Kind.duration.marks c := by
  induction h with
  | nil => cases hc
  | cons hpart _ ih =>
      rw [List.flatMap_cons, List.mem_append] at hc
      rcases hc with hc | hparts
      · exact hpart.isDigitOr_of_mem_chars hc
      · exact ih hparts

theorem isDigitOr_of_mem_chars {d : Duration} {c : Char} (h : c ∈ d.chars) :
    IsDigitOr Kind.duration.marks c := by
  rcases exists_spelled d.nanoseconds.natAbs with ⟨parts, -, hspelled, hchars⟩
  rw [chars_eq, List.mem_append, hchars] at h
  rcases h with hminus | hparts
  · rw [Numeral.eq_of_mem_signChars hminus]
    exact .inr List.mem_cons_self
  · exact hspelled.isDigitOr_of_mem_chars hparts

theorem mem_clockChars (n : Nat) : 's' ∈ clockChars n := by
  unfold clockChars
  dsimp only
  split
  · exact List.mem_append_right _ List.mem_cons_self
  · split <;> simp

theorem mem_magnitudeChars (n : Nat) : 's' ∈ magnitudeChars n := by
  -- All units below a minute are written with an `s`, and one of them always is.
  have hscaled (places : Nat) {unit : List Char} (h : 's' ∈ unit) :
      's' ∈ scaledChars n places unit := List.mem_append_right _ h
  unfold magnitudeChars
  split
  · decide
  · split
    · exact hscaled 0 (by decide)
    · split
      · exact hscaled 3 (by decide)
      · split
        · exact hscaled 6 (by decide)
        · exact mem_clockChars n

theorem mem_chars (d : Duration) : 's' ∈ d.chars := by
  rw [chars_eq]
  exact List.mem_append_right _ (mem_magnitudeChars _)

end Duration

namespace Value

theorem isDigitOr_of_mem_chars {v : Value} (hkind : v.kind ≠ .string) {c : Char}
    (h : c ∈ v.chars) : IsDigitOr v.kind.marks c := by
  cases v with
  | integer n => exact Numeral.isDigitOr_of_mem_integerChars h
  | decimal d => exact Decimal.isDigitOr_of_mem_chars h
  | boolean b =>
      have hsubset : (boolean b).chars ⊆ Kind.boolean.marks := by
        cases b <;> decide
      exact .inr (hsubset h)
  | string s => exact absurd rfl hkind
  | duration d => exact Duration.isDigitOr_of_mem_chars h

theorem not_mem_chars (v : Value) (hkind : v.kind ≠ .string) {c : Char}
    (hdigit : c.isDigit = false) (hmark : c ∉ v.kind.marks) : c ∉ v.chars := by
  intro h
  rcases isDigitOr_of_mem_chars hkind h with htrue | hmem
  · cases hdigit.symm.trans htrue
  · exact hmark hmem

theorem chars_ne_nil (v : Value) : v.chars ≠ [] := by
  cases v with
  | integer n =>
      rw [chars, Numeral.integerChars]
      split
      · exact List.cons_ne_nil _ _
      · exact Numeral.digits_ne_nil _
  | decimal d => exact List.ne_nil_of_mem d.mem_chars
  | boolean b => cases b <;> exact List.cons_ne_nil _ _
  | string s => exact List.cons_ne_nil _ _
  | duration d => exact List.ne_nil_of_mem d.mem_chars

end Value

/-!
## Kinds
-/

/-- The kind of the values with a text, by the first of four marks that the text has. -/
def Kind.ofChars (cs : List Char) : Kind :=
  if '"' ∈ cs then .string
  else if 'E' ∈ cs then .decimal
  else if 'e' ∈ cs then .boolean
  else if 's' ∈ cs then .duration
  else .integer

/-- The text of a value tells its kind. -/
theorem Kind.ofChars_chars (v : Value) : ofChars v.chars = v.kind := by
  cases v with
  | integer n =>
      have hnot (c : Char) : c.isDigit = false -> c ∉ integer.marks ->
        c ∉ (Value.integer n).chars :=
        (Value.integer n).not_mem_chars (show integer ≠ string by decide)
      rw [ofChars, if_neg (hnot '"' rfl (by decide)), if_neg (hnot 'E' rfl (by decide)),
        if_neg (hnot 'e' rfl (by decide)), if_neg (hnot 's' rfl (by decide)), Value.kind]
  | decimal d =>
      have hnot (c : Char) : c.isDigit = false -> c ∉ decimal.marks ->
        c ∉ (Value.decimal d).chars :=
        (Value.decimal d).not_mem_chars (show decimal ≠ string by decide)
      have hmark : 'E' ∈ (Value.decimal d).chars := d.mem_chars
      rw [ofChars, if_neg (hnot '"' rfl (by decide)), if_pos hmark, Value.kind]
  | boolean b => cases b <;> rfl
  | string s => exact if_pos List.mem_cons_self
  | duration d =>
      have hnot (c : Char) : c.isDigit = false -> c ∉ duration.marks ->
        c ∉ (Value.duration d).chars :=
        (Value.duration d).not_mem_chars (show duration ≠ string by decide)
      have hmark : 's' ∈ (Value.duration d).chars := d.mem_chars
      rw [ofChars, if_neg (hnot '"' rfl (by decide)), if_neg (hnot 'E' rfl (by decide)),
        if_neg (hnot 'e' rfl (by decide)), if_pos hmark, Value.kind]

/-!
## Values of one kind
-/

theorem Text.eq_of_reads_back {α ε : Type} {write : α -> List Char}
    {read : List Char -> Except ε α} (hread : forall x, read (write x) = .ok x) {x y : α}
    (h : write x = write y) : x = y := by
  have hsame : read (write x) = read (write y) := congrArg read h
  rw [hread, hread] at hsame
  exact Except.ok.inj hsame

namespace Value

/-- Values that are the same, or decimals that are rounded to the same number when they
are shown. -/
inductive ShownAlike : Value -> Value -> Prop where
  | decimal {a b : Decimal} : a.shown.toRat = b.shown.toRat ->
      ShownAlike (.decimal a) (.decimal b)
  | refl (v : Value) : ShownAlike v v

theorem ShownAlike.of_chars_eq {v w : Value} (h : v.chars = w.chars) : v.ShownAlike w := by
  have hkind : v.kind = w.kind := by
    rw [← Kind.ofChars_chars, h, Kind.ofChars_chars]
  cases v with
  | integer m =>
      cases w <;> cases hkind
      cases Text.eq_of_reads_back Numeral.integerOfChars_integerChars h
      exact .refl _
  | decimal a =>
      cases w <;> cases hkind
      exact .decimal (Decimal.chars_eq_chars_iff.mp h)
  | boolean a =>
      cases w <;> cases hkind
      have hall : forall a b, (boolean a).chars = (boolean b).chars -> a = b := by
        decide
      cases hall _ _ h
      exact .refl _
  | string s =>
      cases w <;> cases hkind
      cases String.toList_inj.mp (Text.eq_of_reads_back Text.unquote_quote h)
      exact .refl _
  | duration c =>
      cases w <;> cases hkind
      cases Text.eq_of_reads_back Duration.ofChars_chars h
      exact .refl _

theorem chars_eq_chars_iff {v w : Value} : v.chars = w.chars <-> v.ShownAlike w := by
  constructor
  · exact ShownAlike.of_chars_eq
  · intro h
    cases h with
    | decimal hshown => exact Decimal.chars_eq_chars_iff.mpr hshown
    | refl _ => rfl

end Value

/-!
## Where texts end
-/

/-- Whether a character is neither a blank nor a parenthesis nor a quote. -/
def Text.isBare (c : Char) : Bool :=
  c ∉ [' ', '(', ')', '"']

namespace Value

open Text (isBare StopsRun)

theorem string_or_bare (v : Value) :
    (exists s, v = .string s) ∨ forall c, c ∈ v.chars -> isBare c = true := by
  by_cases hkind : v.kind = .string
  · cases v <;> cases hkind
    exact .inl ⟨_, rfl⟩
  · have hmarks (kind : Kind) : kind.marks.all isBare = true := by
      cases kind <;> decide
    right
    intro c hc
    rcases isDigitOr_of_mem_chars hkind hc with hdigit | hmark
    · exact Numeral.eq_of_isDigit (by decide) hdigit
    · exact List.all_eq_true.mp (hmarks v.kind) c hmark

theorem chars_append_ne {v : Value} (hbare : forall c, c ∈ v.chars -> isBare c = true)
    {a rest : List Char} (hrest : StopsRun isBare rest) : v.chars ++ a ≠ rest := by
  rintro rfl
  rcases List.exists_cons_of_ne_nil v.chars_ne_nil with ⟨c, cs, hcons⟩
  rw [hcons] at hbare hrest
  cases (hbare c List.mem_cons_self).symm.trans (hrest c rfl)

theorem chars_append_ne_paren (v : Value) (a b : List Char) : v.chars ++ a ≠ '(' :: b := by
  rcases v.string_or_bare with ⟨s, rfl⟩ | hbare
  · intro h
    cases (List.cons.inj h).left
  · exact chars_append_ne hbare (Text.stopsRun_cons rfl)

/-- The text of a value is told apart from what stands behind it, if that begins with a
blank, a parenthesis or a quote. -/
theorem chars_split {v w : Value} {a b : List Char} (ha : StopsRun isBare a)
    (hb : StopsRun isBare b) (h : v.chars ++ a = w.chars ++ b) :
    v.chars = w.chars ∧ a = b := by
  rcases v.string_or_bare with ⟨s, rfl⟩ | hv
  · rcases w.string_or_bare with ⟨t, rfl⟩ | hw
    · exact Scan.quote_split h
    · exact absurd h.symm (chars_append_ne hw (Text.stopsRun_cons rfl))
  · rcases w.string_or_bare with ⟨t, rfl⟩ | hw
    · exact absurd h (chars_append_ne hv (Text.stopsRun_cons rfl))
    · exact Text.append_split hv hw ha hb h

end Value
end Reckon
