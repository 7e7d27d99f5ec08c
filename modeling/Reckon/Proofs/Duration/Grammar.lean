import Reckon.Proofs.Duration.Range
import Reckon.Proofs.Token.Shapes

/-!
# The grammar of durations

A duration is written as a lone zero or as a row of amounts, with or without a sign. Every
text is a row of amounts up to its first component that is none, and that component tells
what is wrong with the text. Reading goes along the same components, so that it refuses all
other texts for the same reason, unless the amounts in front are too long already.
-/

namespace Reckon
namespace Duration

open Text (StopsRun)

/-!
## The grammar
-/

/-- A lone zero, or one or more amounts, behind a sign or none. -/
inductive IsText : List Char -> Prop where
  | zero (sign : Sign) : IsText (sign.chars ++ ['0'])
  | amounts (sign : Sign) {amounts : List Amount} :
      amounts ≠ [] -> IsText (sign.chars ++ amounts.flatMap Amount.chars)

/-- The names of all units. -/
def unitNames : List (List Char) :=
  [['n', 's'], ['u', 's'], ['\u00b5', 's'], ['\u03bc', 's'], ['m', 's'], ['s'], ['m'], ['h']]

/-- A text begins with a component, and goes on behind it. None of the parts of the
component goes on into what follows it. -/
inductive Splits : List Char -> Component -> List Char -> Prop where
  | intro {whole unit rest : List Char} {fraction? : Option (List Char)} :
      (forall c, c ∈ whole -> c.isDigit = true) ->
      (forall c, c ∈ fraction?.getD [] -> c.isDigit = true) ->
      (forall c, c ∈ unit -> isUnitChar c = true) ->
      EndsNumber fraction? (unit ++ rest) -> StopsRun isUnitChar rest ->
      Splits (whole ++ (placesChars fraction? ++ (unit ++ rest)))
        ⟨whole, fraction?.getD [], unit⟩ rest

/-- What is wrong with a component: it has no digits, no unit, or one that is not known. -/
def Component.fault? (part : Component) : Option Fault :=
  if part.whole = [] ∧ part.fraction = [] then some .invalid
  else if part.unit = [] then some .missingUnit
  else if part.unit ∈ unitNames then none
  else some (.unknownUnit part.unit)

/-- A text is a row of amounts, perhaps with a sign, up to a component that is none. No
unit goes on into that component, and it is not empty unless there is nothing else. -/
inductive FirstFault : List Char -> Fault -> Prop where
  | intro {sign : Sign} {amounts : List Amount} {cs rest : List Char} {part : Component}
      {fault : Fault} :
      sign.StandsBefore (amounts.flatMap Amount.chars ++ cs) ->
      (amounts ≠ [] -> cs ≠ [] ∧ StopsRun isUnitChar cs) ->
      Splits cs part rest -> part.fault? = some fault ->
      FirstFault (sign.chars ++ (amounts.flatMap Amount.chars ++ cs)) fault

/-!
## Splitting
-/

theorem exists_sign (cs : List Char) :
    exists sign : Sign, exists body, cs = sign.chars ++ body ∧ sign.StandsBefore body := by
  cases cs with
  | nil => exact ⟨.absent, [], rfl, fun _ => Text.stopsRun_nil _⟩
  | cons c rest =>
      by_cases hminus : c = '-'
      · rw [hminus]
        exact ⟨.minus, rest, rfl, fun h => nomatch h⟩
      · by_cases hplus : c = '+'
        · rw [hplus]
          exact ⟨.plus, rest, rfl, fun h => nomatch h⟩
        · refine ⟨.absent, c :: rest, rfl, fun _ => Text.stopsRun_cons ?_⟩
          simp [hminus, hplus]

theorem mem_unitNames_iff {name : List Char} :
    name ∈ unitNames <-> exists unit, TimeUnit.ofChars? name = some unit := by
  constructor
  · intro h
    have hall : forall name, name ∈ unitNames -> (TimeUnit.ofChars? name).isSome = true := by
      decide
    exact Option.isSome_iff_exists.mp (hall name h)
  · rintro ⟨unit, h⟩
    unfold TimeUnit.ofChars? at h
    split at h
    case h_9 => cases h
    all_goals decide

theorem Splits.splitComponent_eq {cs rest : List Char} {part : Component}
    (h : Splits cs part rest) : splitComponent cs = (part, rest) := by
  cases h with
  | intro hwhole hfraction hunit hends hrest =>
      exact splitComponent_append hwhole hfraction hunit hends hrest

theorem exists_placesChars_append {cs : List Char} (h : StopsRun Char.isDigit cs) :
    exists (fraction? : Option (List Char)) (behind : List Char),
      cs = placesChars fraction? ++ behind ∧
        (forall c, c ∈ fraction?.getD [] -> c.isDigit = true) ∧ EndsNumber fraction? behind := by
  cases cs with
  | nil => exact ⟨none, [], rfl, List.forall_mem_nil _, h, fun _ => Text.stopsRun_nil _⟩
  | cons c rest =>
      by_cases hpoint : c = '.'
      · refine ⟨some (rest.takeWhile Char.isDigit), rest.dropWhile Char.isDigit, ?_,
          fun c => List.mem_takeWhile_imp, Text.stopsRun_dropWhile _ _, fun h => nomatch h⟩
        rw [hpoint, placesChars, List.cons_append, List.takeWhile_append_dropWhile]
      · exact ⟨none, c :: rest, rfl, List.forall_mem_nil _, h,
          fun _ => Text.stopsRun_cons (beq_eq_false_iff_ne.mpr hpoint)⟩

theorem splits_splitComponent (cs : List Char) :
    Splits cs (splitComponent cs).1 (splitComponent cs).2 := by
  rcases exists_placesChars_append (Text.stopsRun_dropWhile Char.isDigit cs) with
    ⟨fraction?, behind, hdrop, hfraction, hends⟩
  have hbehind : behind.takeWhile isUnitChar ++ behind.dropWhile isUnitChar = behind :=
    List.takeWhile_append_dropWhile
  rw [← hbehind] at hends
  have hwhole : forall c, c ∈ cs.takeWhile Char.isDigit -> c.isDigit = true :=
    fun c => List.mem_takeWhile_imp
  have hsplits := Splits.intro hwhole hfraction (fun c => List.mem_takeWhile_imp) hends
    (Text.stopsRun_dropWhile isUnitChar behind)
  rw [hbehind, ← hdrop, List.takeWhile_append_dropWhile] at hsplits
  rw [hsplits.splitComponent_eq]
  exact hsplits

/-!
## Amounts and other components
-/

theorem Amount.fault?_component (a : Amount) : a.component.fault? = none := by
  have hdigits : ¬ (a.whole = [] ∧ a.fraction?.getD [] = []) := by
    rw [not_and_or]
    exact a.exists_digit
  have hunit : a.name ≠ [] := (TimeUnit.isUnitChar_of_ofChars? a.name_eq).left
  have hname : a.name ∈ unitNames := mem_unitNames_iff.mpr ⟨a.unit, a.name_eq⟩
  rw [Component.fault?, component, if_neg hdigits, if_neg hunit, if_pos hname]

theorem Splits.exists_amount {cs rest : List Char} {part : Component}
    (h : Splits cs part rest) (hfault : part.fault? = none) :
    exists a : Amount, cs = a.chars ++ rest ∧ StopsRun isUnitChar rest := by
  cases h with
  | @intro whole unit _ fraction? hwhole hfraction hunit hends hrest =>
      unfold Component.fault? at hfault
      split at hfault
      · cases hfault
      · next hdigits =>
          split at hfault
          · cases hfault
          · split at hfault
            · next hname =>
                rcases mem_unitNames_iff.mp hname with ⟨timeUnit, heq⟩
                refine ⟨⟨whole, fraction?, timeUnit, unit, hwhole, hfraction,
                  not_and_or.mp hdigits, heq⟩, ?_, hrest⟩
                rw [Amount.chars, List.append_assoc, List.append_assoc]
            · cases hfault

theorem exists_amounts (cs : List Char) :
    exists amounts : List Amount, exists rest, cs = amounts.flatMap Amount.chars ++ rest ∧
      (amounts ≠ [] -> StopsRun isUnitChar rest) ∧
      (rest = [] ∨ exists fault, (splitComponent rest).1.fault? = some fault) := by
  induction hlength : cs.length using Nat.strong_induction_on generalizing cs with
  | h length ih =>
      by_cases hcs : cs = []
      · exact ⟨[], cs, rfl, fun h => absurd rfl h, .inl hcs⟩
      · cases hfault : (splitComponent cs).1.fault? with
        | some fault => exact ⟨[], cs, rfl, fun h => absurd rfl h, .inr ⟨fault, hfault⟩⟩
        | none =>
            rcases (splits_splitComponent cs).exists_amount hfault with ⟨a, hchars, hstops⟩
            have hlt := length_splitComponent_lt hcs
            rw [hlength] at hlt
            rcases ih _ hlt _ rfl with ⟨amounts, rest, hrest, hamounts, hend⟩
            refine ⟨a :: amounts, rest, ?_, ?_, hend⟩
            · rw [List.flatMap_cons, List.append_assoc, ← hrest]
              exact hchars
            · intro _
              cases amounts with
              | nil =>
                  rw [List.flatMap_nil, List.nil_append] at hrest
                  exact hrest ▸ hstops
              | cons b amounts => exact hamounts (List.cons_ne_nil _ _)

/-!
## Reading along the components
-/

theorem Component.addTo_of_fault? {part : Component} {fault : Fault}
    (h : part.fault? = some fault) (total : Nat) : part.addTo total = .error fault := by
  unfold fault? at h
  unfold addTo
  split at h
  · next hdigits =>
      cases h
      rw [hdigits.left, hdigits.right]
      rfl
  · next hdigits =>
      have hsome : (part.whole.isEmpty && part.fraction.isEmpty) = false := by
        rw [Bool.and_eq_false_iff, List.isEmpty_eq_false_iff, List.isEmpty_eq_false_iff]
        exact not_and_or.mp hdigits
      rw [hsome]
      split at h
      · next hunit =>
          cases h
          rw [hunit]
          rfl
      · next hunit =>
          split at h
          · cases h
          · next hname =>
              cases h
              have hunknown : TimeUnit.ofChars? part.unit = none := by
                rw [Option.eq_none_iff_forall_not_mem]
                intro unit hknown
                exact hname (mem_unitNames_iff.mpr ⟨unit, hknown⟩)
              rw [List.isEmpty_eq_false_iff.mpr hunit, hunknown]
              rfl

/-- What becomes of amounts that are too long: their total is refused, or a fraction carries
it away. -/
def Fault.IsTooLong (fault : Fault) : Prop :=
  fault = .overflow ∨ fault = .trap

theorem foldlM_addTo_append (amounts : List Amount) (parts : List Component) (total : Nat) :
    (exists fault, fault.IsTooLong ∧
        (amounts.map Amount.component ++ parts).foldlM Component.addTo total = .error fault) ∨
      exists sum, (amounts.map Amount.component ++ parts).foldlM Component.addTo total =
        parts.foldlM Component.addTo sum := by
  induction amounts generalizing total with
  | nil => exact .inr ⟨total, rfl⟩
  | cons a amounts ih =>
      rw [List.map_cons, List.cons_append, List.foldlM_cons, a.addTo_component]
      split
      · exact .inl ⟨.overflow, .inl rfl, rfl⟩
      · split
        · exact .inl ⟨.trap, .inr rfl, rfl⟩
        · split
          · exact .inl ⟨.overflow, .inl rfl, rfl⟩
          · exact ih _

/-- A row of amounts is read, or is too long. -/
theorem IsText.isTooLong {cs : List Char} {fault : Fault} (h : IsText cs)
    (hread : ofChars cs = .error fault) : fault.IsTooLong := by
  cases h with
  | zero sign => cases sign <;> cases hread
  | @amounts sign amounts hne =>
      rw [ofChars_eq_of_amounts sign hne] at hread
      have hsum := foldlM_addTo_append amounts [] 0
      rw [List.append_nil] at hsum
      rcases hsum with ⟨long, hlong, hsum⟩ | ⟨sum, hsum⟩
      · rw [hsum] at hread
        cases hread
        exact hlong
      · rw [hsum, List.foldlM_nil] at hread
        change ofTotal _ = _ at hread
        unfold ofTotal at hread
        split at hread
        · cases hread
        · cases hread
          exact .inl rfl

/-!
## Faults
-/

theorem isText_of_splitSign_eq {cs : List Char} (h : (splitSign cs).2 = ['0']) : IsText cs := by
  rcases exists_sign cs with ⟨sign, body, rfl, hsign⟩
  rw [hsign.splitSign_eq] at h
  cases h
  exact .zero sign

theorem exists_firstFault {cs : List Char} (h : ¬ IsText cs) :
    exists fault, FirstFault cs fault := by
  rcases exists_sign cs with ⟨sign, body, rfl, hsign⟩
  rcases exists_amounts body with ⟨amounts, rest, rfl, hstops, hend⟩
  have hopen : ¬ (amounts ≠ [] ∧ rest = []) := by
    rintro ⟨hne, rfl⟩
    rw [List.append_nil] at h
    exact h (.amounts sign hne)
  have hfault : exists fault, (splitComponent rest).1.fault? = some fault := by
    rcases hend with rfl | hfault
    · exact ⟨.invalid, rfl⟩
    · exact hfault
  rcases hfault with ⟨fault, hfault⟩
  refine ⟨fault, .intro hsign ?_ (splits_splitComponent rest) hfault⟩
  intro hne
  constructor
  · exact fun hrest => hopen ⟨hne, hrest⟩
  · exact hstops hne

theorem FirstFault.exists_components {cs : List Char} {fault : Fault} (h : FirstFault cs fault) :
    ((splitSign cs).2 = [] ∧ fault = .invalid) ∨
      exists (amounts : List Amount) (part : Component) (others : List Component),
        components (splitSign cs).2 = amounts.map Amount.component ++ part :: others ∧
          part.fault? = some fault := by
  cases h with
  | @intro sign amounts cs rest part _ hsign hamounts hsplit hfault =>
      have hpart := hsplit.splitComponent_eq
      rw [hsign.splitSign_eq]
      by_cases hcs : cs = []
      · subst hcs
        have hnone : amounts = [] := by
          by_contra hne
          exact (hamounts hne).left rfl
        cases hpart
        cases hfault
        exact .inl ⟨by rw [hnone]; rfl, rfl⟩
      · refine .inr ⟨amounts, part, components rest, ?_, hfault⟩
        have hfirst : components cs = part :: components rest := by
          rw [components, dif_neg hcs]
          simp only [hpart]
        rw [components_flatMap_chars_append amounts fun hne => (hamounts hne).right, hfirst]

/-- There is only one thing that is wrong first. -/
theorem FirstFault.unique {cs : List Char} {fault other : Fault} (h : FirstFault cs fault)
    (hother : FirstFault cs other) : other = fault := by
  have hsearch {fault : Fault} (h : FirstFault cs fault) :
      (splitSign cs).2 = [] ∧ fault = .invalid ∨
        (components (splitSign cs).2).findSome? Component.fault? = some fault := by
    rcases h.exists_components with hempty | ⟨amounts, part, others, hparts, hfault⟩
    · exact .inl hempty
    · have hnone : (amounts.map Amount.component).findSome? Component.fault? = none := by
        rw [List.findSome?_eq_none_iff]
        intro part hpart
        rcases List.mem_map.mp hpart with ⟨a, -, rfl⟩
        exact a.fault?_component
      right
      rw [hparts, List.findSome?_append, hnone, List.findSome?_cons, hfault]
      rfl
  rcases hsearch h with ⟨hbody, rfl⟩ | hfirst
  · rcases hsearch hother with ⟨-, rfl⟩ | hfirst
    · rfl
    · rw [hbody, components_nil] at hfirst
      cases hfirst
  · rcases hsearch hother with ⟨hbody, -⟩ | hsecond
    · rw [hbody, components_nil] at hfirst
      cases hfirst
    · rw [hfirst] at hsecond
      exact (Option.some.inj hsecond).symm

/-- Reading stops at the fault, if it comes that far. -/
theorem FirstFault.ofChars_eq {cs : List Char} {fault : Fault} (h : FirstFault cs fault)
    (htext : ¬ IsText cs) :
    ofChars cs = .error fault ∨ exists long, long.IsTooLong ∧ ofChars cs = .error long := by
  have hzero : (splitSign cs).2 ≠ ['0'] := fun hbody => htext (isText_of_splitSign_eq hbody)
  have hparts := h.exists_components
  unfold ofChars
  generalize splitSign cs = split at hzero hparts
  rcases split with ⟨negative, body⟩
  simp only [beq_eq_false_iff_ne.mpr hzero, Bool.false_eq_true, if_false]
  rcases hparts with ⟨hbody, rfl⟩ | ⟨amounts, part, others, hparts, hfault⟩
  · rw [if_pos (List.isEmpty_iff.mpr hbody)]
    exact .inl rfl
  · have hbody : ¬ body.isEmpty = true := by
      rw [List.isEmpty_iff]
      rintro rfl
      rw [components_nil] at hparts
      exact List.append_ne_nil_of_right_ne_nil _ (List.cons_ne_nil _ _) hparts.symm
    rw [if_neg hbody, hparts]
    rcases foldlM_addTo_append amounts (part :: others) 0 with ⟨long, hlong, hsum⟩ | ⟨sum, hsum⟩
    · rw [hsum]
      exact .inr ⟨long, hlong, rfl⟩
    · rw [hsum, List.foldlM_cons, Component.addTo_of_fault? hfault]
      exact .inl rfl

theorem isText_of_ofChars_eq_ok {cs : List Char} {d : Duration} (h : ofChars cs = .ok d) :
    IsText cs := by
  by_contra htext
  rcases exists_firstFault htext with ⟨fault, hfault⟩
  rcases hfault.ofChars_eq htext with hread | ⟨long, -, hread⟩
  · rw [hread] at h
    cases h
  · rw [hread] at h
    cases h

theorem IsText.exists_amounts {c : Char} {rest : List Char} (h : IsText (c :: rest))
    (hc : c.isDigit = true) (hzero : c :: rest ≠ ['0']) :
    exists a amounts, c :: rest = (a :: amounts).flatMap Amount.chars := by
  have hsign {sign : Sign} {body : List Char} (h : c :: rest = sign.chars ++ body) :
      c :: rest = body := by
    cases sign with
    | absent => exact h
    | plus =>
        cases h
        cases hc
    | minus =>
        cases h
        cases hc
  generalize htext : c :: rest = text at h
  cases h with
  | zero sign => exact absurd (hsign htext) hzero
  | @amounts sign amounts hne =>
      rcases List.exists_cons_of_ne_nil hne with ⟨a, others, rfl⟩
      exact ⟨a, others, (htext.symm.trans (hsign htext))⟩

/-- A text that follows the grammar, with units of these names, is read as a duration or is
too long for one. Every other text is not read. If it is not for amounts that are too long,
then it is for the one thing that is wrong with the text first. -/
theorem ofChars_of_grammar (cs : List Char) :
    (forall name, name ∈ unitNames <-> exists unit, TimeUnit.ofChars? name = some unit) ∧
      (IsText cs -> forall fault, ofChars cs = .error fault -> fault.IsTooLong) ∧
      (¬ IsText cs -> exists fault, FirstFault cs fault ∧
        (forall other, FirstFault cs other -> other = fault) ∧
        (ofChars cs = .error fault ∨
          exists long, long.IsTooLong ∧ ofChars cs = .error long)) := by
  refine ⟨fun name => mem_unitNames_iff, fun htext fault => htext.isTooLong, ?_⟩
  intro htext
  rcases exists_firstFault htext with ⟨fault, hfault⟩
  exact ⟨fault, hfault, fun other => hfault.unique, hfault.ofChars_eq htext⟩

/-- A minus behind an hour is no sign. It belongs to the unit. -/
theorem ofChars_of_grammar_of_hyphen :
    let text := "2m1h-30m".toList
    let hours : Amount := ⟨"9999999".toList, none, .hour, ['h'],
      by simp, List.forall_mem_nil _, by decide, rfl⟩
    ¬ IsText text ∧ FirstFault text (.unknownUnit ['h', '-']) ∧
      ofChars text = .error (.unknownUnit ['h', '-']) ∧
      IsText ([hours].flatMap Amount.chars) ∧
      ofChars ([hours].flatMap Amount.chars) = .error .overflow := by
  intro text hours
  have hread : ofChars text = .error (.unknownUnit ['h', '-']) := by decide +kernel
  have htext : ¬ IsText text := by
    intro htext
    rcases (ofChars_of_grammar text).right.left htext _ hread with ⟨⟨⟩⟩ | ⟨⟨⟩⟩
  refine ⟨htext, ?_, hread, .amounts .absent (List.cons_ne_nil hours []), by decide +kernel⟩
  rcases (ofChars_of_grammar text).right.right htext with
    ⟨fault, hfirst, -, hsame | ⟨long, hlong, hsame⟩⟩
  · rw [hread] at hsame
    cases hsame
    exact hfirst
  · rw [hread] at hsame
    cases hsame
    rcases hlong with ⟨⟨⟩⟩ | ⟨⟨⟩⟩

end Duration
end Reckon
