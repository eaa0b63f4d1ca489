import TileRealm.Json.Reader
import TileRealm.Proofs.Text.Digit

/-!
# Reading back a JSON text

An object of strings and whole numbers is read back from its text (`parse?_render`).  A part of the text is read back
in front of any rest that can stand behind it.

- `stringValue_render`: a string, whatever its characters are;
- `number_render`: a whole number, in front of something that ends it (`Ends`);
- `members_render`: an object, if each of its values is read back (`ReadsBack`).
-/

set_option autoImplicit false

namespace TileRealm.Json

open Text

variable {lenient : Bool} {c l : Char} {cs rest : List Char}

/-! ## Strings -/

theorem pieces_short (hl : unescape? l = some c) (hu : l ≠ 'u') (cs : List Char) :
    pieces ('\\' :: l :: cs) = (pieces cs).map fun q => (.plain c :: q.1, q.2) := by
  rw [pieces.eq_4 _ _ fun _ _ _ _ _ h _ => hu h, hl]

/-- The number in the escape of a control character is its code point. -/
theorem escapeControl_eq (hc : c.toNat < 0x20) :
    ∃ d₁ d₂ d₃ d₄, escapeControl c = ['\\', 'u', d₁, d₂, d₃, d₄] ∧ hex4? d₁ d₂ d₃ d₄ = some c.toNat := by
  have hall : ∀ n : Fin 32, hex4? '0' '0' (if n.1 < 16 then '0' else '1') (Nat.digitChar (n % 16)) = some n.1 ∧
      List.replicate (4 - (Nat.toDigits 16 n.1).length) '0' ++ Nat.toDigits 16 n.1 =
        ['0', '0', if n.1 < 16 then '0' else '1', Nat.digitChar (n % 16)] := by
    decide
  obtain ⟨hcode, hdigits⟩ := hall ⟨c.toNat, hc⟩
  exact ⟨_, _, _, _, congrArg (['\\', 'u'] ++ ·) hdigits, hcode⟩

/-- The escape of a character reads back as one piece. -/
theorem exists_piece (lenient : Bool) (c : Char) : ∃ p,
    (∀ cs, pieces (escape c ++ cs) = (pieces cs).map fun q => (p :: q.1, q.2)) ∧
      ∀ ps, joinPieces lenient (p :: ps) = (joinPieces lenient ps).map (c :: ·) := by
  have hplain : ∀ ps, joinPieces lenient (.plain c :: ps) = (joinPieces lenient ps).map (c :: ·) := by
    intro ps
    simp only [joinPieces, bind_pure_comp, Option.map_eq_map]
  unfold escape
  split
  · subst c
    exact ⟨_, pieces_short (l := '"') rfl (by decide), hplain⟩
  split
  · subst c
    exact ⟨_, pieces_short (l := '\\') rfl (by decide), hplain⟩
  split
  · subst c
    exact ⟨_, pieces_short (l := 'b') rfl (by decide), hplain⟩
  split
  · subst c
    exact ⟨_, pieces_short (l := 't') rfl (by decide), hplain⟩
  split
  · subst c
    exact ⟨_, pieces_short (l := 'n') rfl (by decide), hplain⟩
  split
  · subst c
    exact ⟨_, pieces_short (l := 'f') rfl (by decide), hplain⟩
  split
  · subst c
    exact ⟨_, pieces_short (l := 'r') rfl (by decide), hplain⟩
  split
  · rename_i hcontrol
    obtain ⟨d₁, d₂, d₃, d₄, hescape, hcode⟩ := escapeControl_eq hcontrol
    refine ⟨.coded c.toNat, fun cs => ?_, fun ps => ?_⟩
    · rw [hescape]
      simp only [List.cons_append, List.nil_append, pieces, hcode]
    · have hchar : charOf? c.toNat = some c := by
        rw [charOf?, if_pos (show c.toNat.isValidChar from c.valid), Char.ofNat_toNat]
      rcases ps with _ | ⟨_ | _, ps⟩ <;> simp only [joinPieces, hchar, bind_pure_comp, Option.map_eq_map]
  · rename_i hquote hback _ _ _ _ _ hcontrol
    refine ⟨.plain c, fun cs => ?_, hplain⟩
    rw [List.singleton_append, pieces.eq_5 _ _ hquote (fun _ _ _ _ _ h _ => hback h) (fun _ _ h _ => hback h),
      if_neg (by simp [hcontrol, hback])]

/-- A string reads back, whatever stands behind it. -/
theorem stringValue_render (lenient : Bool) (s : String) (rest : List Char) :
    stringValue lenient (renderString s ++ rest) = some (s, rest) := by
  have hpieces : ∀ cs : List Char, ∃ ps, pieces (cs.flatMap escape ++ '"' :: rest) = some (ps, rest) ∧
      joinPieces lenient ps = some cs := by
    intro cs
    induction cs with
    | nil => exact ⟨[], pieces.eq_2 rest, joinPieces.eq_1 lenient⟩
    | cons c cs ih =>
      obtain ⟨ps, hps, hjoin⟩ := ih
      obtain ⟨p, hp, hcons⟩ := exists_piece lenient c
      refine ⟨p :: ps, ?_, ?_⟩
      · rw [List.flatMap_cons, List.append_assoc, hp, hps]
        rfl
      · rw [hcons, hjoin]
        rfl
  obtain ⟨ps, hps, hjoin⟩ := hpieces s.toList
  have htext : renderString s ++ rest = '"' :: (s.toList.flatMap escape ++ '"' :: rest) := by
    simp [renderString]
  rw [htext, stringValue, hps]
  simp [hjoin]

/-! ## Scans one after the other -/

section Scan

variable {α β : Type} {scan : Scan α} {a : α}

theorem bind_of_eq (h : scan cs = some (a, rest)) (next : α → Scan β) : (scan >>= next) cs = next a rest := by
  simp [bind, StateT.bind, h]

theorem optional_of_none (h : scan cs = none) : Scan.optional scan cs = some (none, cs) := by
  simp [Scan.optional, h]

theorem char_cons (c : Char) (cs : List Char) : Scan.char c (c :: cs) = some ((), cs) :=
  if_pos rfl

theorem char_of_head?_ne (h : cs.head? ≠ some c) : Scan.char c cs = none := by
  cases cs with
  | nil => rfl
  | cons d cs => exact if_neg fun hd => h (congrArg some hd)

theorem takeWhile1_append {p : Char → Bool} {run : List Char} (hne : run ≠ []) (hrun : ∀ c ∈ run, p c = true)
    (hstop : ∀ c, rest.head? = some c → p c = false) : Scan.takeWhile1 p (run ++ rest) = some (run, rest) := by
  have hrest : rest.takeWhile p = [] ∧ rest.dropWhile p = rest := by
    cases rest with
    | nil => exact ⟨rfl, rfl⟩
    | cons c rest => simp [hstop c rfl]
  rw [Scan.takeWhile1, List.takeWhile_append_of_pos hrun, List.dropWhile_append_of_pos hrun, hrest.1, hrest.2,
    List.append_nil]
  cases run with
  | nil => exact absurd rfl hne
  | cons c run => rfl

/-- In front of something that is no blank, blanks skip nothing. -/
theorem blanks_of_head? (h : ∀ c, cs.head? = some c → isBlank c = false) : blanks cs = some ((), cs) := by
  cases cs with
  | nil => rfl
  | cons c cs => simp [blanks, Scan.skipWhile, h c rfl]

theorem symbol_cons (c : Char) (h : ∀ d, cs.head? = some d → isBlank d = false) :
    symbol c (c :: cs) = some ((), cs) := by
  rw [symbol, bind_of_eq (char_cons c cs), blanks_of_head? h]

end Scan

/-- Whether a text can stand behind a value in an object: it is empty, or it ends the value. -/
def Ends (rest : List Char) : Prop :=
  ∀ c, rest.head? = some c → c = ',' ∨ c = '\x7d'

theorem Ends.head?_ne (hrest : Ends rest) (hcomma : c ≠ ',') (hbrace : c ≠ '\x7d') : rest.head? ≠ some c := by
  intro h
  rcases hrest c h with rfl | rfl
  · exact hcomma rfl
  · exact hbrace rfl

theorem Ends.not_blank (hrest : Ends rest) (c : Char) (hc : rest.head? = some c) : isBlank c = false := by
  rcases hrest c hc with rfl | rfl <;> decide

/-! ## Numbers -/

/-- No number but 0 starts with the digit 0. -/
theorem head?_toDigits {n : Nat} (hn : 0 < n) : (Nat.toDigits 10 n).head? ≠ some '0' := by
  induction n using Nat.strong_induction_on with
  | _ n ih =>
    rw [Nat.toDigits_eq_if (by decide)]
    split
    · rename_i hsmall
      have hall : ∀ m : Fin 10, 0 < m.1 → [Nat.digitChar m.1].head? ≠ some '0' := by decide
      exact hall ⟨n, hsmall⟩ hn
    · rename_i hlarge
      rw [List.head?_append_of_ne_nil _ Nat.toDigits_ne_nil]
      exact ih (n / 10) (by omega) (by omega)

/-- A number reads back in front of something that ends it. -/
theorem number_render (n : Nat) (hrest : Ends rest) :
    number (Nat.toDigits 10 n ++ rest) = some (integer n, rest) := by
  have hdigit : ∀ c ∈ Nat.toDigits 10 n, isDigit c = true := by
    intro c hc
    simp [isDigit, isDigitOf, digitValue?_of_isDigit (isDigit_toDigits hc)]
  have hminus : Scan.optional (Scan.char '-') (Nat.toDigits 10 n ++ rest) = some (none, Nat.toDigits 10 n ++ rest) := by
    apply optional_of_none
    apply char_of_head?_ne
    rw [List.head?_append_of_ne_nil _ Nat.toDigits_ne_nil]
    intro h
    exact absurd (hdigit _ (List.mem_of_mem_head? h)) (by decide)
  have hwhole : wholeDigits (Nat.toDigits 10 n ++ rest) = some (Nat.toDigits 10 n, rest) := by
    have hstop : ∀ c, rest.head? = some c → isDigit c = false := by
      intro c hc
      rcases hrest c hc with rfl | rfl <;> decide
    rw [wholeDigits, bind_of_eq (takeWhile1_append Nat.toDigits_ne_nil hdigit hstop), if_neg]
    · rfl
    · rintro ⟨hzero, hlength⟩
      cases n with
      | zero => exact hlength rfl
      | succ n => exact head?_toDigits n.succ_pos hzero
  have hfraction : fraction rest = some ([], rest) := by
    rw [fraction, bind_of_eq (optional_of_none (char_of_head?_ne (hrest.head?_ne (by decide) (by decide))))]
    rfl
  have hexponent : exponent rest = some ([], rest) := by
    have hnone : ∀ c, rest.head? = some c → (c = 'e' || c = 'E') = false := by
      intro c hc
      rcases hrest c hc with rfl | rfl <;> decide
    have hsatisfy : Scan.satisfy (fun c => c = 'e' || c = 'E') rest = none := by
      cases rest with
      | nil => rfl
      | cons c rest => exact if_neg (by simpa using hnone c rfl)
    rw [exponent, bind_of_eq (optional_of_none hsatisfy)]
    rfl
  rw [number, bind_of_eq hminus, bind_of_eq hwhole, bind_of_eq hfraction, bind_of_eq hexponent, numberOf_toDigits]
  rfl

/-! ## Objects -/

/-- A value reads back in front of something that ends it, and does not start with a blank. -/
structure ReadsBack (scan : Scan Json) (value : Json) : Prop where
  head : ∀ rest c, (value.renderChars ++ rest).head? = some c → isBlank c = false
  eq : ∀ rest, Ends rest → scan (value.renderChars ++ rest) = some (value, rest)

theorem readsBack_string (lenient : Bool) (bound : Nat) (s : String) :
    ReadsBack (valueWithin lenient (bound + 1)) (.string s) := by
  have hhead : ∀ rest, ((string s).renderChars ++ rest).head? = some '"' := fun _ => rfl
  refine ⟨fun rest c hc => ?_, fun rest _ => ?_⟩
  · rw [hhead] at hc
    cases hc
    decide
  · have hpeek : Scan.peek ((string s).renderChars ++ rest) = some (some '"', (string s).renderChars ++ rest) := rfl
    rw [valueWithin, bind_of_eq hpeek]
    exact bind_of_eq (stringValue_render lenient s rest) _

theorem readsBack_integer (lenient : Bool) (bound n : Nat) :
    ReadsBack (valueWithin lenient (bound + 1)) (.integer n) := by
  have hhead : ∀ rest c, ((integer n).renderChars ++ rest).head? = some c → c.isDigit = true := by
    intro rest c hc
    have htext : (integer n).renderChars = Nat.toDigits 10 n := rfl
    rw [htext, List.head?_append_of_ne_nil _ Nat.toDigits_ne_nil] at hc
    exact isDigit_toDigits (List.mem_of_mem_head? hc)
  refine ⟨fun rest c hc => ?_, fun rest hrest => ?_⟩
  · have hdigit := hhead rest c hc
    by_contra hblank
    rw [Bool.not_eq_false, isBlank] at hblank
    simp at hblank
    rcases hblank with ((rfl | rfl) | rfl) | rfl <;> revert hdigit <;> decide
  · have hpeek : Scan.peek ((integer n).renderChars ++ rest) =
        some (((integer n).renderChars ++ rest).head?, (integer n).renderChars ++ rest) := rfl
    rw [valueWithin, bind_of_eq hpeek]
    refine Eq.trans (congrFun ?_ _) (number_render n hrest)
    split
    case h_7 => rfl
    all_goals
      rename_i hc
      exact absurd (hhead rest _ hc) (by decide)

/-- The scan of one field of an object. -/
def entry {α : Type} (lenient : Bool) (field : String → Scan α) : Scan (String × α) := do
  let name ← stringValue lenient
  blanks
  symbol ':'
  let value ← field name
  blanks
  return (name, value)

variable {field : String → Scan Json} {name : String} {value : Json}

theorem not_blank_renderString (s : String) (rest : List Char) (c : Char)
    (hc : (renderString s ++ rest).head? = some c) : isBlank c = false := by
  obtain rfl : '"' = c := Option.some.inj hc
  decide

theorem entry_render (lenient : Bool) (hvalue : ReadsBack (field name) value) (hrest : Ends rest) :
    entry lenient field (renderString name ++ ':' :: (value.renderChars ++ rest)) = some ((name, value), rest) := by
  have hcolon : ∀ cs c, (':' :: cs).head? = some c → isBlank c = false := by
    intro cs c hc
    cases hc
    decide
  rw [entry, bind_of_eq (stringValue_render lenient name _), bind_of_eq (blanks_of_head? (hcolon _)),
    bind_of_eq (symbol_cons ':' (hvalue.head rest)), bind_of_eq (hvalue.eq rest hrest),
    bind_of_eq (blanks_of_head? hrest.not_blank)]
  rfl

theorem ends_renderFields (fields : List (String × Json)) (rest : List Char) :
    Ends (renderFields fields ++ '\x7d' :: rest) := by
  intro c hc
  rcases fields with _ | ⟨⟨name, value⟩, fields⟩
  · exact Or.inr (Option.some.inj hc).symm
  · exact Or.inl (Option.some.inj hc).symm

/-- The fields of an object read back up to its end. -/
theorem sepBy1_render (lenient : Bool) (hvalue : ReadsBack (field name) value) {fields : List (String × Json)}
    (hfields : ∀ f ∈ fields, ReadsBack (field f.1) f.2) {bound : Nat} (hbound : fields.length < bound)
    (rest : List Char) :
    Scan.sepBy1 (entry lenient field) (symbol ',') bound
        (renderString name ++ ':' :: (value.renderChars ++ (renderFields fields ++ '\x7d' :: rest))) =
      some ((name, value) :: fields, '\x7d' :: rest) := by
  induction fields generalizing name value bound with
  | nil =>
    obtain ⟨bound, rfl⟩ := Nat.exists_eq_succ_of_ne_zero (Nat.ne_of_gt hbound)
    have hstop : symbol ',' ('\x7d' :: rest) = none := rfl
    rw [Scan.sepBy1, entry_render lenient hvalue (ends_renderFields [] rest)]
    simp only [renderFields, List.nil_append, hstop]
  | cons f fields ih =>
    obtain ⟨bound, rfl⟩ := Nat.exists_eq_succ_of_ne_zero (Nat.ne_of_gt (Nat.zero_lt_of_lt hbound))
    obtain ⟨name', value'⟩ := f
    have hmore := ih (hfields _ List.mem_cons_self) (fun f hf => hfields f (List.mem_cons_of_mem _ hf))
      (Nat.lt_of_succ_lt_succ hbound)
    have hcomma : symbol ',' (renderFields ((name', value') :: fields) ++ '\x7d' :: rest) = some ((),
        renderString name' ++ ':' :: (value'.renderChars ++ (renderFields fields ++ '\x7d' :: rest))) := by
      have htext : renderFields ((name', value') :: fields) ++ '\x7d' :: rest =
          ',' :: (renderString name' ++ ':' :: (value'.renderChars ++ (renderFields fields ++ '\x7d' :: rest))) := by
        simp [renderFields]
      rw [htext, symbol_cons ',' (not_blank_renderString name' _)]
    rw [Scan.sepBy1, entry_render lenient hvalue (ends_renderFields _ rest)]
    simp only [hcomma, hmore]

/-- An object reads back, and so do its fields. -/
theorem members_render (lenient : Bool) {fields : List (String × Json)}
    (hfields : ∀ f ∈ fields, ReadsBack (field f.1) f.2) {bound : Nat} (hbound : fields.length ≤ bound)
    (rest : List Char) :
    members lenient field bound ((object fields).renderChars ++ rest) = some (fields, rest) := by
  rcases fields with _ | ⟨⟨name, value⟩, fields⟩
  · rfl
  · have htext : (object ((name, value) :: fields)).renderChars ++ rest =
        '\x7b' :: (renderString name ++ ':' :: (value.renderChars ++ (renderFields fields ++ '\x7d' :: rest))) := by
      simp [renderChars]
    have hquote : Scan.char '\x7d' (renderString name ++
        ':' :: (value.renderChars ++ (renderFields fields ++ '\x7d' :: rest))) = none := rfl
    have hfields := sepBy1_render lenient (hfields _ List.mem_cons_self)
      (fun f hf => hfields f (List.mem_cons_of_mem _ hf)) hbound rest
    rw [htext, members, bind_of_eq (symbol_cons _ (not_blank_renderString name _)),
      bind_of_eq (optional_of_none hquote)]
    exact (bind_of_eq hfields _).trans (bind_of_eq (char_cons _ rest) _)

theorem length_le_renderFields (fields : List (String × Json)) : fields.length ≤ (renderFields fields).length := by
  induction fields with
  | nil => exact Nat.le_refl 0
  | cons f fields ih =>
    rw [renderFields]
    simp only [List.length_cons, List.length_append]
    omega

/-- **Reading what was written.** An object whose fields are strings and whole numbers that are not negative reads back
from its text. -/
theorem parse?_render {fields : List (String × Json)}
    (hfields : ∀ f ∈ fields, (∃ s, f.2 = string s) ∨ ∃ n : Nat, f.2 = integer n) :
    parse? (object fields).render = some (object fields) := by
  have hbrace : ∃ cs, (object fields).renderChars = '\x7b' :: cs ∧ fields.length ≤ cs.length := by
    rcases fields with _ | ⟨⟨name, value⟩, fields⟩
    · exact ⟨['\x7d'], rfl, Nat.zero_le _⟩
    · refine ⟨_, rfl, ?_⟩
      have hlength := length_le_renderFields fields
      simp only [List.append_eq, List.length_cons, List.length_append]
      omega
  obtain ⟨cs, htext, hlength⟩ := hbrace
  have hblank : ∀ c, (object fields).renderChars.head? = some c → isBlank c = false := by
    intro c hc
    rw [htext] at hc
    obtain rfl : '\x7b' = c := Option.some.inj hc
    decide
  have hobject : value false (object fields).renderChars = some (object fields, []) := by
    have hatoms : ∀ f ∈ fields, ReadsBack (valueWithin false (cs.length + 1)) f.2 := by
      rintro ⟨name, value⟩ hf
      rcases hfields _ hf with ⟨s, rfl⟩ | ⟨n, rfl⟩
      · exact readsBack_string false cs.length s
      · exact readsBack_integer false cs.length n
    have hmembers : members false (fun _ => valueWithin false (cs.length + 1)) (cs.length + 2)
        ((object fields).renderChars ++ []) = some (fields, []) := members_render false hatoms (by omega) []
    rw [List.append_nil] at hmembers
    have hpeek : Scan.peek (object fields).renderChars = some (some '\x7b', (object fields).renderChars) := by
      rw [htext]
      rfl
    have hbound : (object fields).renderChars.length + 1 = cs.length + 2 := by rw [htext, List.length_cons]
    rw [value, hbound, valueWithin, bind_of_eq hpeek]
    exact bind_of_eq hmembers _
  rw [parse?, render, String.toList_ofList, Scan.whole, bind_of_eq (blanks_of_head? hblank), bind_of_eq hobject]
  rfl

end TileRealm.Json
