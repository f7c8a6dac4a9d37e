import Mathlib.Data.List.TakeDrop
import Mathlib.Data.List.TakeWhile
import FixedWindow.Number.Binary64

/-!
# Numerals

The texts that are read as floating-point numbers are given by a grammar: after an optional sign
there is a word for an infinity or for no number, in letters of any case, or a decimal, which has at
least one digit, an optional point before, between or behind its digits, and an optional exponent.
All whole numbers that can be read are numerals, and so is whatever a number is written as.

## Main definitions

* `Number.IsDigits`, `Number.IsSign`, `Number.IsExponent`, `Number.IsDecimal`, `Number.IsWord`: the
  parts of a numeral.
* `Number.IsNumeral`: the grammar of numerals.

## Main results

* `Binary64.isSome_read?_iff`: exactly the numerals are read as floating-point numbers.
* `Number.isNumeral_of_readInt64?`: a text that is read as a whole number is a numeral.
* `Number.isNumeral_toString`, `Binary64.isNumeral_text`: what a number is written as is a numeral.
-/

namespace FixedWindow

namespace Number

/-- A row of decimal digits, which may be empty. -/
def IsDigits (cs : List Char) : Prop := ∀ c ∈ cs, c.isDigit = true

/-- An optional sign. -/
def IsSign (cs : List Char) : Prop := cs = [] ∨ cs = ['+'] ∨ cs = ['-']

/-- An optional exponent: its mark, an optional sign, and at least one digit. -/
def IsExponent (cs : List Char) : Prop :=
  cs = [] ∨ ∃ mark sign digits, cs = mark :: (sign ++ digits) ∧ (mark = 'e' ∨ mark = 'E') ∧
    IsSign sign ∧ digits ≠ [] ∧ IsDigits digits

/-- A decimal without a sign: at least one digit, a point somewhere among the digits or none, and an
optional exponent. -/
def IsDecimal (cs : List Char) : Prop :=
  ∃ whole fraction exponent, IsDigits (whole ++ fraction) ∧ whole ++ fraction ≠ [] ∧
    IsExponent exponent ∧
    (cs = whole ++ '.' :: (fraction ++ exponent) ∨ fraction = [] ∧ cs = whole ++ exponent)

/-- A word for an infinity or for no number, in letters of any case. -/
def IsWord (cs : List Char) : Prop :=
  let word := String.ofList (cs.map Char.toLower)
  word = "inf" ∨ word = "infinity" ∨ word = "nan"

/-- A numeral is a word or a decimal behind an optional sign. -/
def IsNumeral (cs : List Char) : Prop :=
  ∃ sign body, cs = sign ++ body ∧ IsSign sign ∧ (IsWord body ∨ IsDecimal body)

/-! ### Digits -/

theorem IsDigits.append {cs ds : List Char} (hcs : IsDigits cs) (hds : IsDigits ds) :
    IsDigits (cs ++ ds) :=
  fun c hc => (List.mem_append.mp hc).elim (hcs c) (hds c)

theorem isSome_digitValue?_iff {c : Char} :
    (digitValue? 10 c).isSome = true ↔ c.isDigit = true := by
  have hle (d d' : Char) : d ≤ d' ↔ d.toNat ≤ d'.toNat := Iff.rfl
  have hdigit : c.isDigit = true ↔ '0' ≤ c ∧ c ≤ '9' := by simp [Char.isDigit, Char.le_def]
  have hsome (n : Nat) : ((some n).filter fun v => v < 10).isSome = true ↔ n < 10 := by
    rw [Option.filter_some]
    split <;> simp_all
  have hzero : '0'.toNat = 48 := rfl
  have hnine : '9'.toNat = 57 := rfl
  rw [hdigit, digitValue?]
  simp only [hle, hzero, hnine]
  split
  · rw [hsome]
    omega
  · -- the value of a letter is ten or more
    rename_i hnot
    refine iff_of_false ?_ hnot
    split
    · rw [hsome]
      omega
    · split
      · rw [hsome]
        omega
      · exact Bool.noConfusion

theorem isSome_foldlM_digitValue?_iff (cs : List Char) (acc : Nat) :
    (cs.foldlM (fun acc c => (digitValue? 10 c).map fun v => acc * 10 + v) acc).isSome = true ↔
      IsDigits cs := by
  induction cs generalizing acc with
  | nil => simp [IsDigits]
  | cons c rest ih =>
    rw [List.foldlM_cons, IsDigits, List.forall_mem_cons, ← isSome_digitValue?_iff]
    cases digitValue? 10 c with
    | none => simp
    | some v =>
      rw [Option.isSome_some, and_iff_right rfl]
      exact ih (acc * 10 + v)

theorem isSome_digitsValue?_iff {cs : List Char} :
    (digitsValue? 10 cs).isSome = true ↔ cs ≠ [] ∧ IsDigits cs := by
  cases cs with
  | nil => simp [digitsValue?]
  | cons c rest =>
    rw [and_iff_right (List.cons_ne_nil c rest)]
    exact isSome_foldlM_digitValue?_iff (c :: rest) 0

/-! ### Signs -/

/-- What is read behind an optional sign, if nothing that begins with a sign is read by itself. -/
theorem isSome_signed_iff {α : Type} {P : List Char → Prop} (hplus : ∀ rest, ¬ P ('+' :: rest))
    (hminus : ∀ rest, ¬ P ('-' :: rest)) {minus plus plain : List Char → Option α}
    (hread : ∀ cs, ((minus cs).isSome = true ↔ P cs) ∧ ((plus cs).isSome = true ↔ P cs) ∧
      ((plain cs).isSome = true ↔ P cs)) (cs : List Char) :
    (match cs with
      | '-' :: rest => minus rest
      | '+' :: rest => plus rest
      | rest => plain rest).isSome = true ↔
        ∃ sign body, cs = sign ++ body ∧ IsSign sign ∧ P body := by
  constructor
  · intro h
    split at h
    · rename_i rest
      exact ⟨['-'], rest, rfl, .inr (.inr rfl), (hread rest).1.mp h⟩
    · rename_i rest
      exact ⟨['+'], rest, rfl, .inr (.inl rfl), (hread rest).2.1.mp h⟩
    · exact ⟨[], cs, rfl, .inl rfl, (hread cs).2.2.mp h⟩
  · rintro ⟨sign, body, rfl, rfl | rfl | rfl, hbody⟩
    · rw [List.nil_append]
      split
      · exact (hminus _ hbody).elim
      · exact (hplus _ hbody).elim
      · exact (hread body).2.2.mpr hbody
    · exact (hread body).2.1.mpr hbody
    · exact (hread body).1.mpr hbody

theorem isSome_readExponent?_iff {cs : List Char} :
    (Binary64.readExponent? cs).isSome = true ↔ IsExponent cs := by
  cases cs with
  | nil => exact ⟨fun _ => .inl rfl, fun _ => rfl⟩
  | cons mark rest =>
    change (if mark = 'e' ∨ mark = 'E' then _ else none).isSome = true ↔ _
    by_cases hmark : mark = 'e' ∨ mark = 'E'
    · rw [if_pos hmark]
      refine (isSome_signed_iff (P := fun ds => ds ≠ [] ∧ IsDigits ds)
        (fun _ h => Bool.noConfusion (h.2 '+' List.mem_cons_self))
        (fun _ h => Bool.noConfusion (h.2 '-' List.mem_cons_self)) ?_ rest).trans ⟨?_, ?_⟩
      · intro ds
        rw [← isSome_digitsValue?_iff]
        cases digitsValue? 10 ds <;> simp
      · rintro ⟨sign, digits, rfl, hsign, hne, hdigits⟩
        exact .inr ⟨mark, sign, digits, rfl, hmark, hsign, hne, hdigits⟩
      · rintro (h | ⟨_, sign, digits, h, -, hsign, hne, hdigits⟩)
        · cases h
        · cases h
          exact ⟨sign, digits, rfl, hsign, hne, hdigits⟩
    · rw [if_neg hmark]
      constructor
      · intro h
        cases h
      · rintro (h | ⟨_, _, _, h, hmark', -⟩)
        · cases h
        · cases h
          exact (hmark hmark').elim

/-! ### Decimals -/

theorem not_isWord_cons {c : Char} (hc : c.toLower ≠ 'i' ∧ c.toLower ≠ 'n') (rest : List Char) :
    ¬ IsWord (c :: rest) := by
  have hhead (w : Char) (word : List Char) (hw : c.toLower ≠ w) :
      String.ofList ((c :: rest).map Char.toLower) ≠ String.ofList (w :: word) :=
    fun h => hw (List.cons.inj (String.ofList_injective h)).1
  rintro (h | h | h)
  · exact hhead 'i' ['n', 'f'] hc.1 h
  · exact hhead 'i' ['n', 'f', 'i', 'n', 'i', 't', 'y'] hc.1 h
  · exact hhead 'n' ['a', 'n'] hc.2 h

theorem isDecimal_of_isDigits {cs : List Char} (h : IsDigits cs) (hne : cs ≠ []) : IsDecimal cs :=
  ⟨cs, [], [], by rwa [List.append_nil], by rwa [List.append_nil], .inl rfl,
    .inr ⟨rfl, (List.append_nil cs).symm⟩⟩

/-- A decimal begins with a digit or a point. -/
theorem IsDecimal.head {c : Char} {rest : List Char} (h : IsDecimal (c :: rest)) :
    c.isDigit = true ∨ c = '.' := by
  obtain ⟨whole, fraction, exponent, hdigits, hne, -, h⟩ := h
  cases whole with
  | cons first others =>
    have hfirst : first.isDigit = true := hdigits first List.mem_cons_self
    rcases h with h | ⟨-, h⟩
    · cases h
      exact .inl hfirst
    · cases h
      exact .inl hfirst
  | nil =>
    rcases h with h | ⟨rfl, -⟩
    · cases h
      exact .inr rfl
    · exact (hne rfl).elim

theorem spanDigits_append {digits rest : List Char} (hdigits : IsDigits digits)
    (hrest : ∀ c ∈ rest.head?, c.isDigit = false) :
    Binary64.spanDigits (digits ++ rest) = (digits, rest) := by
  have hnone : rest.takeWhile Char.isDigit = [] ∧ rest.dropWhile Char.isDigit = rest := by
    cases rest with
    | nil => exact ⟨rfl, rfl⟩
    | cons c others =>
      have hc : c.isDigit = false := hrest c rfl
      simp [hc]
  rw [Binary64.spanDigits, List.span_eq_takeWhile_dropWhile,
    List.takeWhile_append_of_pos hdigits, List.dropWhile_append_of_pos hdigits, hnone.1, hnone.2,
    List.append_nil]

theorem append_spanDigits (cs : List Char) :
    (Binary64.spanDigits cs).1 ++ (Binary64.spanDigits cs).2 = cs ∧
      IsDigits (Binary64.spanDigits cs).1 := by
  rw [Binary64.spanDigits, List.span_eq_takeWhile_dropWhile]
  exact ⟨List.takeWhile_append_dropWhile, fun c hc => List.mem_takeWhile_imp hc⟩

theorem IsExponent.head {cs : List Char} (h : IsExponent cs) :
    ∀ c ∈ cs.head?, c.isDigit = false ∧ c ≠ '.' := by
  rcases h with rfl | ⟨mark, sign, digits, rfl, rfl | rfl, -⟩
  · intro c hc
    cases hc
  · rintro c ⟨⟩
    decide
  · rintro c ⟨⟩
    decide

/-- The digits before the point of a text, those behind it, and what follows. -/
def decimalParts (cs : List Char) : List Char × List Char × List Char :=
  let (whole, rest) := Binary64.spanDigits cs
  let (fraction, rest) := match rest with
    | '.' :: more => Binary64.spanDigits more
    | other => ([], other)
  (whole, fraction, rest)

theorem decimalParts_of_point {whole fraction exponent : List Char} (hwhole : IsDigits whole)
    (hfraction : IsDigits fraction) (hexponent : IsExponent exponent) :
    decimalParts (whole ++ '.' :: (fraction ++ exponent)) = (whole, fraction, exponent) := by
  have hpoint : ∀ c ∈ ('.' :: (fraction ++ exponent)).head?, c.isDigit = false := by
    rintro c ⟨⟩
    rfl
  simp only [decimalParts, spanDigits_append hwhole hpoint,
    spanDigits_append hfraction fun c hc => (hexponent.head c hc).1]

theorem decimalParts_of_no_point {whole exponent : List Char} (hwhole : IsDigits whole)
    (hexponent : IsExponent exponent) :
    decimalParts (whole ++ exponent) = (whole, [], exponent) := by
  simp only [decimalParts, spanDigits_append hwhole fun c hc => (hexponent.head c hc).1]
  split
  · exact ((hexponent.head '.' rfl).2 rfl).elim
  · rfl

theorem append_decimalParts (cs : List Char) :
    IsDigits ((decimalParts cs).1 ++ (decimalParts cs).2.1) ∧
      (cs = (decimalParts cs).1 ++ '.' :: ((decimalParts cs).2.1 ++ (decimalParts cs).2.2) ∨
        (decimalParts cs).2.1 = [] ∧ cs = (decimalParts cs).1 ++ (decimalParts cs).2.2) := by
  obtain ⟨hcs, hwhole⟩ := append_spanDigits cs
  unfold decimalParts
  simp only
  split
  · rename_i more hpoint
    obtain ⟨hmore, hfraction⟩ := append_spanDigits more
    refine ⟨hwhole.append hfraction, .inl ?_⟩
    rw [hmore, ← hpoint, hcs]
  · exact ⟨by rwa [List.append_nil], .inr ⟨rfl, hcs.symm⟩⟩

/-- A text is a decimal if its parts are those of one. -/
theorem isDecimal_iff {cs : List Char} :
    IsDecimal cs ↔
      (digitsValue? 10 ((decimalParts cs).1 ++ (decimalParts cs).2.1)).isSome = true ∧
        (Binary64.readExponent? (decimalParts cs).2.2).isSome = true := by
  rw [isSome_digitsValue?_iff, isSome_readExponent?_iff]
  constructor
  · rintro ⟨whole, fraction, exponent, hdigits, hne, hexponent, h⟩
    have hwhole : IsDigits whole := fun c hc => hdigits c (List.mem_append_left _ hc)
    have hfraction : IsDigits fraction := fun c hc => hdigits c (List.mem_append_right _ hc)
    rcases h with rfl | ⟨rfl, rfl⟩
    · rw [decimalParts_of_point hwhole hfraction hexponent]
      exact ⟨⟨hne, hdigits⟩, hexponent⟩
    · rw [decimalParts_of_no_point hwhole hexponent]
      exact ⟨⟨hne, hdigits⟩, hexponent⟩
  · rintro ⟨⟨hne, hdigits⟩, hexponent⟩
    exact ⟨_, _, _, hdigits, hne, hexponent, (append_decimalParts cs).2⟩

theorem isSome_readUnsigned?_iff (negative : Bool) (cs : List Char) :
    (Binary64.readUnsigned? negative cs).isSome = true ↔ IsWord cs ∨ IsDecimal cs := by
  rw [isDecimal_iff]
  unfold Binary64.readUnsigned?
  simp only
  split
  · rename_i h
    exact iff_of_true rfl (.inl (h.imp_right .inl))
  · rename_i hinf
    split
    · rename_i h
      exact iff_of_true rfl (.inl (.inr (.inr h)))
    · rename_i hnan
      have hword : ¬ IsWord cs := fun h =>
        h.elim (fun h => hinf (.inl h)) fun h => h.elim (fun h => hinf (.inr h)) hnan
      rw [or_iff_right hword]
      -- a point decides which digits are read, and then both numbers have to be there
      unfold decimalParts
      simp only
      split <;> split <;> simp_all [Option.isSome_iff_exists]

end Number

/-- Exactly the numerals are read as floating-point numbers. -/
theorem Binary64.isSome_read?_iff {s : String} :
    (read? s).isSome = true ↔ Number.IsNumeral s.toList := by
  refine Number.isSome_signed_iff (P := fun cs => Number.IsWord cs ∨ Number.IsDecimal cs)
    (fun rest h => ?_) (fun rest h => ?_) (fun cs => ?_) s.toList
  · rcases h with h | h
    · exact Number.not_isWord_cons (by decide) rest h
    · exact absurd h.head (by decide)
  · rcases h with h | h
    · exact Number.not_isWord_cons (by decide) rest h
    · exact absurd h.head (by decide)
  · exact ⟨Number.isSome_readUnsigned?_iff _ cs, Number.isSome_readUnsigned?_iff _ cs,
      Number.isSome_readUnsigned?_iff _ cs⟩

namespace Number

/-- A text that is read as a whole number is a numeral. -/
theorem isNumeral_of_readInt64? {s : String} (h : (readInt64? s).isSome = true) :
    IsNumeral s.toList := by
  have hdigits {cs : List Char} (hcs : digitsValue? 10 cs ≠ none) : IsDecimal cs := by
    obtain ⟨hne, hdigits⟩ := isSome_digitsValue?_iff.mp (Option.isSome_iff_ne_none.mpr hcs)
    exact isDecimal_of_isDigits hdigits hne
  unfold readInt64? readSigned? at h
  split at h
  · rename_i cs hcs
    exact ⟨['-'], cs, hcs, .inr (.inr rfl), .inr (hdigits fun hnone => by simp [hnone] at h)⟩
  · rename_i cs hcs
    exact ⟨['+'], cs, hcs, .inr (.inl rfl), .inr (hdigits fun hnone => by simp [hnone] at h)⟩
  · exact ⟨[], s.toList, rfl, .inl rfl, .inr (hdigits fun hnone => by simp [hnone] at h)⟩

/-! ### Written numbers -/

theorem isDigits_toString (n : Nat) : IsDigits (toString n).toList := by
  intro c hc
  have hdigits : c ∈ Nat.toDigits 10 n := by rwa [← Nat.toList_repr]
  exact Nat.isDigit_of_mem_toDigits (by decide) (by decide) hdigits

theorem toList_toString_ne_nil (n : Nat) : (toString n).toList ≠ [] := by
  have h : (toString n).toList = Nat.toDigits 10 n := Nat.toList_repr
  rw [h]
  exact Nat.toDigits_ne_nil

/-- A whole number is written as a numeral. -/
theorem isNumeral_toString (n : Int) : IsNumeral (toString n).toList := by
  cases n with
  | ofNat m =>
    exact ⟨[], _, rfl, .inl rfl,
      .inr (isDecimal_of_isDigits (isDigits_toString m) (toList_toString_ne_nil m))⟩
  | negSucc m =>
    refine ⟨['-'], (toString (m + 1)).toList, ?_, .inr (.inr rfl),
      .inr (isDecimal_of_isDigits (isDigits_toString _) (toList_toString_ne_nil _))⟩
    exact String.toList_append

end Number

namespace Binary64

theorem toList_pushn (s : String) (c : Char) (n : Nat) :
    (s.pushn c n).toList = s.toList ++ List.replicate n c := by
  induction n with
  | zero => exact (List.append_nil _).symm
  | succ n ih =>
    have hpush : (s.pushn c (n + 1)).toList = (s.pushn c n).toList ++ [c] := String.toList_push c
    rw [hpush, ih, List.append_assoc, List.replicate_succ']

theorem isDigits_zeros (n : Nat) : Number.IsDigits (List.replicate n '0') := by
  intro c hc
  rw [List.eq_of_mem_replicate hc]
  rfl

/-- Positional notation is a decimal, with a point or without one. -/
theorem isDecimal_positional (digits : Nat) (k : Int) :
    Number.IsDecimal (positional digits k).toList := by
  have hdigits := Number.isDigits_toString digits
  have hne := Number.toList_toString_ne_nil digits
  by_cases hk : 0 ≤ k
  · have htext : positional digits k = (toString digits).pushn '0' k.toNat := if_pos hk
    rw [htext, toList_pushn]
    exact Number.isDecimal_of_isDigits (hdigits.append (isDigits_zeros _))
      (List.append_ne_nil_of_left_ne_nil hne _)
  · -- the digits with zeros in front, cut in two where the point stands
    let zeros := (-k).toNat + 1 - (toString digits).length
    let padded := "".pushn '0' zeros ++ toString digits
    let cut := padded.length - (-k).toNat
    have htext : positional digits k =
      String.ofList (padded.toList.take cut) ++ "." ++ String.ofList (padded.toList.drop cut) :=
        if_neg hk
    have hpadded : padded.toList = List.replicate zeros '0' ++ (toString digits).toList := by
      rw [String.toList_append, toList_pushn]
      rfl
    have hwhole : padded.toList.take cut ++ padded.toList.drop cut = padded.toList :=
      List.take_append_drop _ _
    refine ⟨padded.toList.take cut, padded.toList.drop cut, [], ?_, ?_, .inl rfl, .inl ?_⟩
    · rw [hwhole, hpadded]
      exact (isDigits_zeros _).append hdigits
    · rw [hwhole, hpadded]
      exact List.append_ne_nil_of_right_ne_nil _ hne
    · rw [htext, String.toList_append, String.toList_append, String.toList_ofList,
        String.toList_ofList, String.toList_ofList, List.append_nil, List.append_assoc,
        List.singleton_append]

/-- A floating-point number is written as a numeral. -/
theorem isNumeral_text (x : Binary64) : Number.IsNumeral x.text.toList := by
  cases x with
  | nan => exact ⟨[], _, rfl, .inl rfl, .inl (.inr (.inr (by decide)))⟩
  | infinite negative =>
    cases negative with
    | false => exact ⟨[], _, rfl, .inl rfl, .inl (.inl (by decide))⟩
    | true => exact ⟨['-'], "inf".toList, by decide, .inr (.inr rfl), .inl (.inl (by decide))⟩
  | finite negative mantissa exponent =>
    obtain ⟨body, htext, hbody⟩ : ∃ body, text (finite negative mantissa exponent) =
        (if negative then "-" else "") ++ body ∧ Number.IsDecimal body.toList := by
      rw [text]
      refine ⟨_, rfl, ?_⟩
      split
      · exact Number.isDecimal_of_isDigits (Number.isDigits_toString 0)
          (Number.toList_toString_ne_nil 0)
      · obtain ⟨digits, k⟩ := shortest mantissa exponent
        exact isDecimal_positional digits k
    have hsign : Number.IsSign (if negative then "-" else "").toList := by
      cases negative with
      | false => exact .inl (by decide)
      | true => exact .inr (.inr (by decide))
    rw [htext, String.toList_append]
    exact ⟨_, _, rfl, hsign, .inr hbody⟩

end Binary64

end FixedWindow
