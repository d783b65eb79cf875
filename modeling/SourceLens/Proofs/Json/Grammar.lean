import SourceLens.Proofs.Json.Reader
import SourceLens.Proofs.Text.Split

/-! # The grammar of JSON

The productions of the whole language, each with what its texts stand for. Whatever the reader reads
is derived by the grammar: it refuses all that is no JSON text. -/
namespace SourceLens.Json

open Text

/-! ## Productions -/

def Blanks (w : List Char) : Prop := ∀ c ∈ w, isBlank c = true

/-- Four hexadecimal digits. -/
inductive UnitText : Nat → List Char → Prop
  | digits {a b c d : Char} {i j k l : Nat} (ha : hexDigit? a = some i) (hb : hexDigit? b = some j)
      (hc : hexDigit? c = some k) (hd : hexDigit? d = some l) :
      UnitText (((i * 16 + j) * 16 + k) * 16 + l) [a, b, c, d]

/-- What stands for a code point behind a backslash and `u`: one unit, or the two halves of a
surrogate pair, the second with a backslash and `u` of its own. -/
inductive PointText : Char → List Char → Prop
  | unit {n : Nat} {s : List Char} (h : UnitText n s) (hn : n < 0xD800 ∨ 0xE000 ≤ n) :
      PointText (Char.ofNat n) s
  | pair {high low : Nat} {s t : List Char} (hhigh : UnitText high s) (hlow : UnitText low t)
      (hh : 0xD800 ≤ high ∧ high < 0xDC00) (hl : 0xDC00 ≤ low ∧ low < 0xE000) :
      PointText (Char.ofNat (0x10000 + (high - 0xD800) * 0x400 + (low - 0xDC00)))
        (s ++ '\\' :: 'u' :: t)

/-- One character of a string: as it is, unless it is a quote, a backslash or a control, or escaped
with a letter or with digits. -/
inductive CharText : Char → List Char → Prop
  | plain {c : Char} (hquote : c ≠ '"') (hbackslash : c ≠ '\\') (hcontrol : 0x20 ≤ c.toNat) :
      CharText c [c]
  | letter {c e : Char} (h : shortEscape? e = some c) : CharText c ['\\', e]
  | point {c : Char} {s : List Char} (h : PointText c s) : CharText c ('\\' :: 'u' :: s)

inductive CharsText : List Char → List Char → Prop
  | nil : CharsText [] []
  | cons {c : Char} {cs s t : List Char} (hc : CharText c s) (hcs : CharsText cs t) :
      CharsText (c :: cs) (s ++ t)

/-- A string behind its opening quote. -/
inductive StringText : String → List Char → Prop
  | close {cs s : List Char} (h : CharsText cs s) : StringText (String.ofList cs) (s ++ ['"'])

def DigitsText (s : List Char) : Prop := s ≠ [] ∧ ∀ d ∈ s, d.isDigit = true

/-- An integer without a sign; no zero stands before its other digits. -/
def WholeText (s : List Char) : Prop := s = ['0'] ∨ s.head? ≠ some '0' ∧ DigitsText s

def FractionText (s : List Char) : Prop := s = [] ∨ ∃ ds, s = '.' :: ds ∧ DigitsText ds

def SignText (marks s : List Char) : Prop := s = [] ∨ ∃ c ∈ marks, s = [c]

def ExponentText (s : List Char) : Prop :=
  s = [] ∨ ∃ e ∈ ['e', 'E'], ∃ mark ds, s = [e] ++ mark ++ ds ∧ SignText ['+', '-'] mark ∧
    DigitsText ds

inductive NumberText : List Char → Prop
  | parts {minus whole part power : List Char} (hminus : SignText ['-'] minus)
      (hwhole : WholeText whole) (hpart : FractionText part) (hpower : ExponentText power) :
      NumberText (minus ++ whole ++ part ++ power)

/-- What stands between an opening and a closing mark: nothing but white space, or elements with
commas between them. -/
inductive SequenceText {α : Type} (element : α → List Char → Prop) : List α → List Char → Prop
  | nil {w : List Char} (hw : Blanks w) : SequenceText element [] w
  | last {a : α} {w s w' : List Char} (hw : Blanks w) (ha : element a s) (hw' : Blanks w') :
      SequenceText element [a] (w ++ s ++ w')
  | cons {a b : α} {as : List α} {w s w' t : List Char} (hw : Blanks w) (ha : element a s)
      (hw' : Blanks w') (has : SequenceText element (b :: as) t) :
      SequenceText element (a :: b :: as) (w ++ s ++ w' ++ ',' :: t)

/-- A name, a colon and a value. -/
inductive MemberText (value : Value → List Char → Prop) : String × Value → List Char → Prop
  | colon {name : String} {v : Value} {s w w' t : List Char} (hname : StringText name s)
      (hw : Blanks w) (hw' : Blanks w') (hv : value v t) :
      MemberText value (name, v) ('"' :: s ++ w ++ ':' :: w' ++ t)

inductive ValueText : Value → List Char → Prop
  | null : ValueText .null "null".toList
  | true : ValueText (.boolean Bool.true) "true".toList
  | false : ValueText (.boolean Bool.false) "false".toList
  | number {s : List Char} (h : NumberText s) : ValueText (.number (String.ofList s)) s
  | string {text : String} {s : List Char} (h : StringText text s) :
      ValueText (.string text) ('"' :: s)
  | array {items : List Value} {s : List Char} (h : SequenceText ValueText items s) :
      ValueText (.array items) ('[' :: s ++ [']'])
  | object {members : List (String × Value)} {s : List Char}
      (h : SequenceText (MemberText ValueText) members s) :
      ValueText (.object members) ('\x7b' :: s ++ ['\x7d'])

/-- A JSON text: one value between white space. -/
inductive IsText (v : Value) : List Char → Prop
  | value {w s w' : List Char} (hw : Blanks w) (hv : ValueText v s) (hw' : Blanks w') :
      IsText v (w ++ s ++ w')

/-! ## What is read is derived -/

section Reading

variable {α : Type}

/-- What an operation takes from the front of a text is derived by a production for its result. -/
def Reads (read? : List Char → Option (α × List Char)) (production : α → List Char → Prop) :
    Prop :=
  ∀ {s a r}, read? s = some (a, r) → ∃ t, s = t ++ r ∧ production a t

theorem exists_skipBlanks (s : List Char) : ∃ w, Blanks w ∧ s = w ++ skipBlanks s :=
  ⟨s.takeWhile isBlank, fun _ hc => List.mem_takeWhile_imp hc,
    List.takeWhile_append_dropWhile.symm⟩

theorem reads_codeUnit : Reads codeUnit? UnitText := by
  intro s n r h
  unfold codeUnit? at h
  split at h
  · next a b c d s =>
    simp only [Option.bind_eq_bind, Option.bind_eq_some_iff] at h
    obtain ⟨i, ha, j, hb, k, hc, l, hd, h⟩ := h
    cases h
    exact ⟨[a, b, c, d], rfl, .digits ha hb hc hd⟩
  · cases h

theorem reads_codePoint : Reads codePoint? PointText := by
  intro s c r h
  simp only [codePoint?, Option.bind_eq_bind, Option.bind_eq_some_iff] at h
  obtain ⟨⟨high, s'⟩, hhigh, h⟩ := h
  obtain ⟨ds, rfl, hds⟩ := reads_codeUnit hhigh
  split at h
  · next hn =>
    cases h
    exact ⟨ds, rfl, .unit hds hn⟩
  · next hn =>
    split at h
    · next t hs' =>
      simp only [Option.bind_eq_some_iff] at h
      obtain ⟨⟨low, r'⟩, hlow, h⟩ := h
      obtain ⟨es, rfl, hes⟩ := reads_codeUnit hlow
      split at h
      · next hl =>
        simp only [Option.pure_def, Option.some.injEq, Prod.mk.injEq] at h
        obtain ⟨rfl, rfl⟩ := h
        have hh : 0xD800 ≤ high ∧ high < 0xDC00 := by omega
        refine ⟨ds ++ '\\' :: 'u' :: es, ?_, .pair hds hes hh hl.2⟩
        rw [show s' = '\\' :: 'u' :: (es ++ r') from hs', List.append_assoc]
        rfl
      · cases h
    · cases h

theorem reads_character : Reads character? CharText := by
  intro s c r h
  unfold character? at h
  split at h
  · cases h
  · cases h
  · next s =>
    obtain ⟨t, rfl, ht⟩ := reads_codePoint h
    exact ⟨_, rfl, .point ht⟩
  · next e s _ =>
    obtain ⟨d, hd, h⟩ := Option.map_eq_some_iff.1 h
    cases h
    exact ⟨['\\', e], rfl, .letter hd⟩
  · next d s hend hu hshort =>
    have hbackslash : d ≠ '\\' := by
      intro hd
      cases s with
      | nil => exact hend hd rfl
      | cons e s => exact hshort e s hd rfl
    split at h
    · cases h
    · next hd =>
      cases h
      rw [not_or, Nat.not_lt] at hd
      exact ⟨[c], rfl, .plain hd.1 hbackslash hd.2⟩

theorem reads_characters :
    Reads characters? fun cs t => ∃ u, t = u ++ ['"'] ∧ CharsText cs u := by
  intro s cs r h
  fun_induction characters? s generalizing cs with
  | case1 s hquote =>
    cases h
    obtain ⟨r, rfl⟩ := List.head?_eq_some_iff.1 hquote
    exact ⟨['"'], rfl, [], rfl, .nil⟩
  | case2 => cases h
  | case3 s hquote c s' hc hlt ih =>
    obtain ⟨⟨cs', r'⟩, hcs', h⟩ := Option.map_eq_some_iff.1 h
    cases h
    obtain ⟨t, rfl, ht⟩ := reads_character hc
    obtain ⟨_, rfl, u, rfl, hu⟩ := ih hcs'
    exact ⟨t ++ (u ++ ['"']), by simp, t ++ u, by simp, .cons ht hu⟩
  | case4 => cases h

theorem reads_string : Reads string? StringText := by
  intro s text r h
  obtain ⟨⟨cs, r'⟩, hcs, h⟩ := Option.map_eq_some_iff.1 h
  cases h
  obtain ⟨_, rfl, u, rfl, hu⟩ := reads_characters hcs
  exact ⟨u ++ ['"'], rfl, .close hu⟩

theorem reads_digits : Reads digits? fun ds t => t = ds ∧ DigitsText ds := by
  intro s ds r h
  unfold digits? at h
  split at h
  · cases h
  · next ds' r' hne hrun =>
    cases h
    obtain ⟨rfl, hds, -⟩ := run_eq_iff.1 hrun
    exact ⟨ds, rfl, rfl, hne, hds⟩

theorem reads_integer : Reads integer? fun ds t => t = ds ∧ WholeText ds := by
  intro s ds r h
  unfold integer? at h
  split at h
  · cases h
    exact ⟨_, rfl, rfl, .inl rfl⟩
  · next hzero =>
    obtain ⟨t, rfl, rfl, ht⟩ := reads_digits h
    refine ⟨t, rfl, rfl, .inr ⟨?_, ht⟩⟩
    intro hhead
    obtain ⟨u, rfl⟩ := List.head?_eq_some_iff.1 hhead
    exact hzero _ rfl

theorem reads_fraction : Reads fraction? fun ds t => t = ds ∧ FractionText ds := by
  intro s ds r h
  unfold fraction? at h
  split at h
  · obtain ⟨⟨es, r'⟩, hes, h⟩ := Option.map_eq_some_iff.1 h
    cases h
    obtain ⟨t, rfl, rfl, ht⟩ := reads_digits hes
    exact ⟨_, rfl, rfl, .inr ⟨t, rfl, ht⟩⟩
  · cases h
    exact ⟨[], rfl, rfl, .inl rfl⟩

theorem sign_spec {marks s mark r : List Char} (h : sign marks s = (mark, r)) :
    s = mark ++ r ∧ SignText marks mark := by
  unfold sign at h
  split at h
  · cases h
    exact ⟨rfl, .inl rfl⟩
  · next c s =>
    split at h
    · next hc =>
      cases h
      exact ⟨rfl, .inr ⟨c, hc, rfl⟩⟩
    · cases h
      exact ⟨rfl, .inl rfl⟩

theorem reads_exponent : Reads exponent? fun ds t => t = ds ∧ ExponentText ds := by
  intro s ds r h
  unfold exponent? at h
  split at h
  · next s' hsign =>
    cases h
    exact ⟨[], (sign_spec hsign).1, rfl, .inl rfl⟩
  · next e s' hne hsign =>
    obtain ⟨rfl, he | ⟨c, hc, rfl⟩⟩ := sign_spec hsign
    · exact absurd he hne
    · obtain ⟨mark, s'', hplus⟩ : ∃ mark s'', sign ['+', '-'] s' = (mark, s'') := ⟨_, _, rfl⟩
      rw [hplus] at h
      obtain ⟨rfl, hmark⟩ := sign_spec hplus
      obtain ⟨⟨es, r'⟩, hes, h⟩ := Option.map_eq_some_iff.1 h
      cases h
      obtain ⟨t, rfl, rfl, ht⟩ := reads_digits hes
      exact ⟨_, by simp, rfl, .inr ⟨c, hc, mark, t, rfl, hmark, ht⟩⟩

theorem reads_number : Reads number? fun x t => t = x ∧ NumberText x := by
  intro s x r h
  obtain ⟨minus, s', hsign⟩ : ∃ minus s', sign ['-'] s = (minus, s') := ⟨_, _, rfl⟩
  simp only [number?, hsign, Option.bind_eq_bind, Option.bind_eq_some_iff] at h
  obtain ⟨⟨whole, s₁⟩, h₁, ⟨part, s₂⟩, h₂, ⟨power, s₃⟩, h₃, h⟩ := h
  cases h
  obtain ⟨rfl, hminus⟩ := sign_spec hsign
  obtain ⟨_, rfl, rfl, hwhole⟩ := reads_integer h₁
  obtain ⟨_, rfl, rfl, hpart⟩ := reads_fraction h₂
  obtain ⟨_, rfl, rfl, hpower⟩ := reads_exponent h₃
  exact ⟨_, by simp, rfl, .parts hminus hwhole hpart hpower⟩

theorem reads_scalar : Reads scalar? ValueText := by
  intro s v r h
  simp only [scalar?, Option.orElse_eq_orElse, Option.orElse_eq_or, Option.or_eq_some_iff,
    Option.map_eq_some_iff, behind?_eq_some_iff] at h
  rcases h with ⟨r', rfl, h⟩ | ⟨-, ⟨r', rfl, h⟩ | ⟨-, ⟨r', rfl, h⟩ | ⟨-, ⟨x, r'⟩, hx, h⟩⟩⟩
  · cases h
    exact ⟨_, rfl, .null⟩
  · cases h
    exact ⟨_, rfl, .true⟩
  · cases h
    exact ⟨_, rfl, .false⟩
  · cases h
    obtain ⟨_, rfl, rfl, hnumber⟩ := reads_number hx
    exact ⟨_, rfl, .number hnumber⟩

/-! ## Sequences and values -/

section Sequences

variable {α : Type} {element? : List Char → Option (α × List Char)} {close : Char}
  {production : α → List Char → Prop}

theorem reads_elements (helement : Reads element? production) : Reads (elements? element? close)
    fun as t => ∃ u, t = u ++ [close] ∧ as ≠ [] ∧ SequenceText production as u := by
  intro s as r h
  fun_induction elements? element? close s generalizing as with
  | case1 => cases h
  | case2 => cases h
  | case3 s a r₁ ha r₂ hclose =>
    cases h
    obtain ⟨w, hw, hs⟩ := exists_skipBlanks s
    obtain ⟨t, ht, htext⟩ := helement ha
    obtain ⟨w', hw', hr₁⟩ := exists_skipBlanks r₁
    refine ⟨w ++ t ++ w' ++ [close], ?_, _, rfl, by simp, .last hw htext hw'⟩
    rw [hs, ht, hr₁, hclose]
    simp
  | case4 s a r₁ ha c r₂ hc hne hcomma ih =>
    obtain ⟨rfl, -⟩ := hcomma
    obtain ⟨⟨bs, r'⟩, hbs, h⟩ := Option.map_eq_some_iff.1 h
    cases h
    obtain ⟨w, hw, hs⟩ := exists_skipBlanks s
    obtain ⟨t, ht, htext⟩ := helement ha
    obtain ⟨w', hw', hr₁⟩ := exists_skipBlanks r₁
    obtain ⟨_, hr₂, u, rfl, hbs, hu⟩ := ih hbs
    obtain ⟨b, bs, rfl⟩ := List.exists_cons_of_ne_nil hbs
    refine ⟨w ++ t ++ w' ++ ',' :: u ++ [close], ?_, _, rfl, by simp, .cons hw htext hw' hu⟩
    rw [hs, ht, hr₁, hc, hr₂]
    simp
  | case5 => cases h

theorem reads_sequence (helement : Reads element? production) : Reads (sequence? element? close)
    fun as t => ∃ u, t = u ++ [close] ∧ SequenceText production as u := by
  intro s as r h
  unfold sequence? at h
  split at h
  · next hclose =>
    obtain ⟨w, hw, hs⟩ := exists_skipBlanks s
    obtain ⟨s', hs'⟩ := List.head?_eq_some_iff.1 hclose
    rw [hs'] at h
    cases h
    refine ⟨w ++ [close], ?_, w, rfl, .nil hw⟩
    rw [hs, hs', List.append_assoc]
    rfl
  · obtain ⟨t, rfl, u, rfl, -, hu⟩ := reads_elements helement h
    exact ⟨_, rfl, u, rfl, hu⟩

end Sequences

theorem reads_member {value? : List Char → Option (Value × List Char)}
    {production : Value → List Char → Prop} (hvalue : Reads value? production) :
    Reads (member? value?) (MemberText production) := by
  intro s m r h
  unfold member? at h
  split at h
  · next s =>
    simp only [Option.bind_eq_bind, Option.bind_eq_some_iff] at h
    obtain ⟨⟨name, s₁⟩, hname, h⟩ := h
    obtain ⟨t, rfl, ht⟩ := reads_string hname
    obtain ⟨w, hw, hs₁⟩ := exists_skipBlanks s₁
    split at h
    · next s₂ hcolon =>
      simp only [Option.bind_eq_some_iff] at h
      obtain ⟨⟨v, s₃⟩, hv, h⟩ := h
      cases h
      obtain ⟨w', hw', hs₂⟩ := exists_skipBlanks s₂
      obtain ⟨u, hu, huv⟩ := hvalue hv
      refine ⟨_, ?_, .colon ht hw hw' huv⟩
      rw [hs₁, hcolon, hs₂, hu]
      simp
    · cases h
  · cases h

theorem reads_value (depth : Nat) : Reads (value? depth) ValueText := by
  induction depth with
  | zero =>
    intro s v r h
    cases h
  | succ depth ih =>
    intro s v r h
    unfold value? at h
    split at h
    · cases h
    · obtain ⟨⟨text, r'⟩, htext, h⟩ := Option.map_eq_some_iff.1 h
      cases h
      obtain ⟨t, rfl, ht⟩ := reads_string htext
      exact ⟨_, rfl, .string ht⟩
    · next d s' hd =>
      cases hd
      obtain ⟨⟨items, r'⟩, hitems, h⟩ := Option.map_eq_some_iff.1 h
      cases h
      obtain ⟨_, rfl, u, rfl, hu⟩ := reads_sequence ih hitems
      exact ⟨_, rfl, .array hu⟩
    · next d s' hd =>
      cases hd
      obtain ⟨⟨members, r'⟩, hmembers, h⟩ := Option.map_eq_some_iff.1 h
      cases h
      obtain ⟨_, rfl, u, rfl, hu⟩ := reads_sequence (reads_member ih) hmembers
      exact ⟨_, rfl, .object hu⟩
    · exact reads_scalar h

end Reading

/-- What the reader reads is a JSON text, and stands for the value that is read. -/
theorem isText_of_read? {text : String} {v : Value} (h : read? text = some v) :
    IsText v text.toList := by
  unfold read? at h
  split at h
  · cases h
  · next v' r hv =>
    split at h
    · next hr =>
      cases h
      obtain ⟨w, hw, hs⟩ := exists_skipBlanks text.toList
      obtain ⟨t, ht, htext⟩ := reads_value _ hv
      obtain ⟨w', hw', hr'⟩ := exists_skipBlanks r
      rw [hs, ht, hr', hr, List.append_nil, ← List.append_assoc]
      exact .value hw htext hw'
    · cases h

end SourceLens.Json
