import Licensing.Text.Utf8
import Mathlib.Data.List.Infix
import Mathlib.Order.Basic

namespace Licensing.Text

/-- The longest bytes with which an encoding starts, or a single byte that starts none. -/
structure Malformed (part rest : List UInt8) : Prop where
  ne_nil : part ≠ []
  not_prefix : ∀ c, ¬ String.utf8EncodeChar c <+: part ++ rest
  starts : part.length = 1 ∨ ∃ c, part <+: String.utf8EncodeChar c
  longest : ∀ b ∈ rest.head?, ∀ c, ¬ part ++ [b] <+: String.utf8EncodeChar c

/-- The parts of a byte sequence: the characters encoded there, and `none` for each malformation. -/
inductive Decodes : List UInt8 → List (Option Char) → Prop where
  | nil : Decodes [] []
  | char {rest : List UInt8} {parts : List (Option Char)} (c : Char) (hrest : Decodes rest parts) :
      Decodes (String.utf8EncodeChar c ++ rest) (some c :: parts)
  | malformed {part rest : List UInt8} {parts : List (Option Char)} (hpart : Malformed part rest)
      (hrest : Decodes rest parts) : Decodes (part ++ rest) (none :: parts)

namespace PendingChar

def valueWith (p : PendingChar) (b : UInt8) : Nat :=
  64 * p.value + (b.toNat - 0x80)

def next (p : PendingChar) (b : UInt8) : PendingChar :=
  ⟨p.left - 1, 0x80, 0xBF, p.valueWith b⟩

def Admits (p : PendingChar) (b : UInt8) : Prop :=
  p.low ≤ b.toNat ∧ b.toNat ≤ p.high

/-- The bytes complete a character that has been started. -/
inductive Completes (c : Char) : PendingChar → List UInt8 → Prop where
  | last {p : PendingChar} {b : UInt8} (hleft : p.left = 1) (hb : p.Admits b)
      (hc : c = Char.ofNat (p.valueWith b)) : Completes c p [b]
  | more {p : PendingChar} {b : UInt8} {bs : List UInt8} (hleft : p.left ≠ 1) (hb : p.Admits b)
      (h : Completes c (p.next b) bs) : Completes c p (b :: bs)

end PendingChar

section

variable {c : Char} {b : UInt8} {bs : List UInt8} {p : PendingChar} {v n : Nat}

theorem firstByte_two (h : 0xC2 ≤ n) (h' : n < 0xE0) :
    firstByte n = .start ⟨1, 0x80, 0xBF, n - 0xC0⟩ := by
  rw [firstByte, if_neg (by omega), if_neg (by omega), if_pos h']

theorem firstByte_three (h : 0xE0 ≤ n) (h' : n < 0xF0) :
    firstByte n = .start ⟨2, if n = 0xE0 then 0xA0 else 0x80, if n = 0xED then 0x9F else 0xBF,
      n - 0xE0⟩ := by
  rw [firstByte, if_neg (by omega), if_neg (by omega), if_neg (by omega), if_pos h']

theorem firstByte_four (h : 0xF0 ≤ n) (h' : n < 0xF5) :
    firstByte n = .start ⟨3, if n = 0xF0 then 0x90 else 0x80, if n = 0xF4 then 0x8F else 0xBF,
      n - 0xF0⟩ := by
  rw [firstByte, if_neg (by omega), if_neg (by omega), if_neg (by omega), if_neg (by omega),
    if_pos h']

theorem utf8EncodeChar_ofNat (h : v.isValidChar) :
    String.utf8EncodeChar (Char.ofNat v) =
      if v ≤ 0x7F then [UInt8.ofNat v]
      else if v ≤ 0x7FF then [UInt8.ofNat (v / 64 % 32 + 192), UInt8.ofNat (v % 64 + 128)]
      else if v ≤ 0xFFFF then
        [UInt8.ofNat (v / 4096 % 16 + 224), UInt8.ofNat (v / 64 % 64 + 128),
          UInt8.ofNat (v % 64 + 128)]
      else
        [UInt8.ofNat (v / 262144 % 8 + 240), UInt8.ofNat (v / 4096 % 64 + 128),
          UInt8.ofNat (v / 64 % 64 + 128), UInt8.ofNat (v % 64 + 128)] := by
  have hv : (Char.ofNat v).val.toNat = v := by
    rw [Char.ofNat, dif_pos h]
    rfl
  rw [String.utf8EncodeChar, hv]

theorem ofNat_eq_iff (h : n < 256) : UInt8.ofNat n = b ↔ b.toNat = n := by
  constructor
  · rintro rfl
    exact UInt8.toNat_ofNat_of_lt h
  · rintro rfl
    exact UInt8.ofNat_toNat

theorem toNat_continuation (n : Nat) : (UInt8.ofNat (n % 64 + 128)).toNat = n % 64 + 128 := by
  rw [UInt8.toNat_ofNat']
  omega

namespace PendingChar

theorem admits_second {left low high value m k : Nat} (hlow : 0x80 ≤ low) (hhigh : high ≤ 0xBF) :
    Admits ⟨left, if n = m then low else 0x80, if n = k then high else 0xBF, value⟩ b ↔
      (0x80 ≤ b.toNat ∧ b.toNat ≤ 0xBF) ∧ (n = m → low ≤ b.toNat) ∧ (n = k → b.toNat ≤ high) := by
  unfold Admits
  dsimp only
  split <;> split <;> omega

theorem admits_continuation (hlow : p.low = 0x80) (hhigh : p.high = 0xBF) (n : Nat) :
    p.Admits (UInt8.ofNat (n % 64 + 128)) := by
  rw [Admits, hlow, hhigh, toNat_continuation]
  omega

theorem valueWith_ofNat (p : PendingChar) (n : Nat) :
    p.valueWith (UInt8.ofNat (n % 64 + 128)) = 64 * p.value + n % 64 := by
  have hb := toNat_continuation n
  unfold valueWith
  omega

@[simp] theorem value_next (p : PendingChar) (b : UInt8) : (p.next b).value = p.valueWith b :=
  rfl

end PendingChar

theorem firstByte_of_utf8EncodeChar (h : String.utf8EncodeChar c = b :: bs) :
    firstByte b.toNat = .char c ∧ bs = [] ∨
      ∃ p, firstByte b.toNat = .start p ∧ p.Completes c bs := by
  obtain ⟨v, hvalid, rfl⟩ : ∃ v, v.isValidChar ∧ c = Char.ofNat v :=
    ⟨c.toNat, c.valid, (Char.ofNat_toNat c).symm⟩
  rw [utf8EncodeChar_ofNat hvalid] at h
  unfold Nat.isValidChar at hvalid
  split at h
  · obtain ⟨hb, rfl⟩ := List.cons.inj h
    rw [ofNat_eq_iff (by omega)] at hb
    rw [hb, firstByte, if_pos (by omega)]
    exact .inl ⟨rfl, rfl⟩
  right
  split at h
  · obtain ⟨hb, rfl⟩ := List.cons.inj h
    rw [ofNat_eq_iff (by omega)] at hb
    refine ⟨_, firstByte_two (by omega) (by omega), .last rfl ?_ (congrArg Char.ofNat ?_)⟩
    · exact PendingChar.admits_continuation rfl rfl v
    · rw [PendingChar.valueWith_ofNat]
      dsimp only
      omega
  split at h
  · obtain ⟨hb, rfl⟩ := List.cons.inj h
    rw [ofNat_eq_iff (by omega)] at hb
    refine ⟨_, firstByte_three (by omega) (by omega), .more (Nat.succ_ne_self 1) ?_
      (.last rfl (PendingChar.admits_continuation rfl rfl _) (congrArg Char.ofNat ?_))⟩
    · rw [PendingChar.admits_second (by decide) (by decide), toNat_continuation]
      omega
    · rw [PendingChar.valueWith_ofNat, PendingChar.value_next, PendingChar.valueWith_ofNat]
      dsimp only
      omega
  · obtain ⟨hb, rfl⟩ := List.cons.inj h
    rw [ofNat_eq_iff (by omega)] at hb
    refine ⟨_, firstByte_four (by omega) (by omega), .more (by simp) ?_
      (.more (Nat.succ_ne_self 1) (PendingChar.admits_continuation rfl rfl _)
        (.last rfl (PendingChar.admits_continuation rfl rfl _) (congrArg Char.ofNat ?_)))⟩
    · rw [PendingChar.admits_second (by decide) (by decide), toNat_continuation]
      omega
    · rw [PendingChar.valueWith_ofNat, PendingChar.value_next, PendingChar.valueWith_ofNat,
        PendingChar.value_next, PendingChar.valueWith_ofNat]
      dsimp only
      omega

theorem firstByte_eq_char (h : firstByte n = .char c) : n < 0x80 ∧ c = Char.ofNat n := by
  unfold firstByte at h
  split at h
  · exact ⟨by assumption, (FirstByte.char.inj h).symm⟩
  · repeat' split at h
    all_goals cases h

theorem firstByte_eq_start (h : firstByte n = .start p) :
    (0xC2 ≤ n ∧ n < 0xE0 ∧ p = ⟨1, 0x80, 0xBF, n - 0xC0⟩) ∨
    (0xE0 ≤ n ∧ n < 0xF0 ∧ p = ⟨2, if n = 0xE0 then 0xA0 else 0x80,
      if n = 0xED then 0x9F else 0xBF, n - 0xE0⟩) ∨
    0xF0 ≤ n ∧ n < 0xF5 ∧ p = ⟨3, if n = 0xF0 then 0x90 else 0x80,
      if n = 0xF4 then 0x8F else 0xBF, n - 0xF0⟩ := by
  by_cases htwo : 0xC2 ≤ n ∧ n < 0xE0
  · rw [firstByte_two htwo.1 htwo.2] at h
    exact .inl ⟨htwo.1, htwo.2, (FirstByte.start.inj h).symm⟩
  by_cases hthree : 0xE0 ≤ n ∧ n < 0xF0
  · rw [firstByte_three hthree.1 hthree.2] at h
    exact .inr (.inl ⟨hthree.1, hthree.2, (FirstByte.start.inj h).symm⟩)
  by_cases hfour : 0xF0 ≤ n ∧ n < 0xF5
  · rw [firstByte_four hfour.1 hfour.2] at h
    exact .inr (.inr ⟨hfour.1, hfour.2, (FirstByte.start.inj h).symm⟩)
  · unfold firstByte at h
    by_cases hone : n < 0x80
    · rw [if_pos hone] at h
      cases h
    by_cases hnone : n < 0xC2
    · rw [if_neg hone, if_pos hnone] at h
      cases h
    · rw [if_neg hone, if_neg hnone, if_neg (by omega), if_neg (by omega), if_neg (by omega)] at h
      cases h

theorem utf8EncodeChar_of_char (h : firstByte b.toNat = .char c) :
    String.utf8EncodeChar c = [b] := by
  obtain ⟨hb, rfl⟩ := firstByte_eq_char h
  rw [utf8EncodeChar_ofNat (.inl (by omega)), if_pos (by omega), UInt8.ofNat_toNat]

namespace PendingChar

theorem Completes.of_last (hleft : p.left = 1) (h : p.Completes c bs) :
    ∃ b, bs = [b] ∧ p.Admits b ∧ c = Char.ofNat (p.valueWith b) := by
  cases h with
  | last _ hb hc => exact ⟨_, rfl, hb, hc⟩
  | more hmore => exact absurd hleft hmore

theorem Completes.of_more (hleft : p.left ≠ 1) (h : p.Completes c bs) :
    ∃ b rest, bs = b :: rest ∧ p.Admits b ∧ (p.next b).Completes c rest := by
  cases h with
  | last hlast => exact absurd hlast hleft
  | more _ hb h => exact ⟨_, _, rfl, hb, h⟩

end PendingChar

section

variable {b₁ b₂ b₃ : UInt8}

theorem utf8EncodeChar_two (h : 0xC2 ≤ b.toNat ∧ b.toNat < 0xE0)
    (h₁ : 0x80 ≤ b₁.toNat ∧ b₁.toNat ≤ 0xBF)
    (hv : v = 64 * (b.toNat - 0xC0) + (b₁.toNat - 0x80)) :
    String.utf8EncodeChar (Char.ofNat v) = [b, b₁] := by
  have hb : UInt8.ofNat (v / 64 % 32 + 192) = b := (ofNat_eq_iff (by omega)).2 (by omega)
  have hb₁ : UInt8.ofNat (v % 64 + 128) = b₁ := (ofNat_eq_iff (by omega)).2 (by omega)
  rw [utf8EncodeChar_ofNat (.inl (by omega)), if_neg (by omega), if_pos (by omega), hb, hb₁]

theorem utf8EncodeChar_three (h : 0xE0 ≤ b.toNat ∧ b.toNat < 0xF0)
    (h₁ : 0x80 ≤ b₁.toNat ∧ b₁.toNat ≤ 0xBF) (hlow : b.toNat = 0xE0 → 0xA0 ≤ b₁.toNat)
    (hhigh : b.toNat = 0xED → b₁.toNat ≤ 0x9F) (h₂ : 0x80 ≤ b₂.toNat ∧ b₂.toNat ≤ 0xBF)
    (hv : v = 64 * (64 * (b.toNat - 0xE0) + (b₁.toNat - 0x80)) + (b₂.toNat - 0x80)) :
    String.utf8EncodeChar (Char.ofNat v) = [b, b₁, b₂] := by
  have hvalid : v.isValidChar := by
    unfold Nat.isValidChar
    omega
  have hb : UInt8.ofNat (v / 4096 % 16 + 224) = b := (ofNat_eq_iff (by omega)).2 (by omega)
  have hb₁ : UInt8.ofNat (v / 64 % 64 + 128) = b₁ := (ofNat_eq_iff (by omega)).2 (by omega)
  have hb₂ : UInt8.ofNat (v % 64 + 128) = b₂ := (ofNat_eq_iff (by omega)).2 (by omega)
  rw [utf8EncodeChar_ofNat hvalid, if_neg (by omega), if_neg (by omega), if_pos (by omega), hb, hb₁,
    hb₂]

theorem utf8EncodeChar_four (h : 0xF0 ≤ b.toNat ∧ b.toNat < 0xF5)
    (h₁ : 0x80 ≤ b₁.toNat ∧ b₁.toNat ≤ 0xBF) (hlow : b.toNat = 0xF0 → 0x90 ≤ b₁.toNat)
    (hhigh : b.toNat = 0xF4 → b₁.toNat ≤ 0x8F) (h₂ : 0x80 ≤ b₂.toNat ∧ b₂.toNat ≤ 0xBF)
    (h₃ : 0x80 ≤ b₃.toNat ∧ b₃.toNat ≤ 0xBF)
    (hv : v = 64 * (64 * (64 * (b.toNat - 0xF0) + (b₁.toNat - 0x80)) + (b₂.toNat - 0x80)) +
      (b₃.toNat - 0x80)) :
    String.utf8EncodeChar (Char.ofNat v) = [b, b₁, b₂, b₃] := by
  have hb : UInt8.ofNat (v / 262144 % 8 + 240) = b := (ofNat_eq_iff (by omega)).2 (by omega)
  have hb₁ : UInt8.ofNat (v / 4096 % 64 + 128) = b₁ := (ofNat_eq_iff (by omega)).2 (by omega)
  have hb₂ : UInt8.ofNat (v / 64 % 64 + 128) = b₂ := (ofNat_eq_iff (by omega)).2 (by omega)
  have hb₃ : UInt8.ofNat (v % 64 + 128) = b₃ := (ofNat_eq_iff (by omega)).2 (by omega)
  rw [utf8EncodeChar_ofNat (.inr (by omega)), if_neg (by omega), if_neg (by omega),
    if_neg (by omega), hb, hb₁, hb₂, hb₃]

end

theorem utf8EncodeChar_of_completes (hfirst : firstByte b.toNat = .start p)
    (h : p.Completes c bs) : String.utf8EncodeChar c = b :: bs := by
  rcases firstByte_eq_start hfirst with ⟨hlow, hhigh, rfl⟩ | ⟨hlow, hhigh, rfl⟩ | ⟨hlow, hhigh, rfl⟩
  · obtain ⟨b₁, rfl, h₁, hc⟩ := h.of_last rfl
    rw [hc]
    exact utf8EncodeChar_two ⟨hlow, hhigh⟩ h₁ rfl
  · obtain ⟨b₁, bs, rfl, h₁, h⟩ := h.of_more (Nat.succ_ne_self 1)
    obtain ⟨b₂, rfl, h₂, hc⟩ := h.of_last rfl
    obtain ⟨hbounds, hsecond⟩ := (PendingChar.admits_second (by decide) (by decide)).1 h₁
    rw [hc]
    exact utf8EncodeChar_three ⟨hlow, hhigh⟩ hbounds hsecond.1 hsecond.2 h₂ rfl
  · obtain ⟨b₁, bs, rfl, h₁, h⟩ := h.of_more (by simp)
    obtain ⟨b₂, bs, rfl, h₂, h⟩ := h.of_more (Nat.succ_ne_self 1)
    obtain ⟨b₃, rfl, h₃, hc⟩ := h.of_last rfl
    obtain ⟨hbounds, hsecond⟩ := (PendingChar.admits_second (by decide) (by decide)).1 h₁
    rw [hc]
    exact utf8EncodeChar_four ⟨hlow, hhigh⟩ hbounds hsecond.1 hsecond.2 h₂ h₃ rfl

theorem utf8EncodeChar_eq_cons_iff : String.utf8EncodeChar c = b :: bs ↔
    firstByte b.toNat = .char c ∧ bs = [] ∨
      ∃ p, firstByte b.toNat = .start p ∧ p.Completes c bs := by
  constructor
  · exact firstByte_of_utf8EncodeChar
  · rintro (⟨hfirst, rfl⟩ | ⟨p, hfirst, h⟩)
    · exact utf8EncodeChar_of_char hfirst
    · exact utf8EncodeChar_of_completes hfirst h

theorem PendingChar.Completes.unique {c' : Char} {more : List UInt8} (h : p.Completes c bs)
    (h' : p.Completes c' (bs ++ more)) : c = c' ∧ more = [] := by
  induction h with
  | last hleft hb hc =>
    obtain ⟨b, heq, -, hc'⟩ := h'.of_last hleft
    obtain ⟨rfl, rfl⟩ := List.cons.inj heq
    exact ⟨hc.trans hc'.symm, rfl⟩
  | more hleft hb h ih =>
    obtain ⟨b, rest, heq, -, hrest⟩ := h'.of_more hleft
    obtain ⟨rfl, rfl⟩ := List.cons.inj heq
    exact ih hrest

theorem utf8EncodeChar_of_prefix {c' : Char} {more : List UInt8}
    (h : String.utf8EncodeChar c' = String.utf8EncodeChar c ++ more) : c = c' ∧ more = [] := by
  obtain ⟨b, bs, hc⟩ := List.exists_cons_of_ne_nil (String.utf8EncodeChar_ne_nil (c := c))
  rw [hc, List.cons_append] at h
  rcases firstByte_of_utf8EncodeChar hc with ⟨hfirst, rfl⟩ | ⟨p, hfirst, hbs⟩ <;>
    rcases firstByte_of_utf8EncodeChar h with ⟨hfirst', hmore⟩ | ⟨p', hfirst', hbs'⟩
  · exact ⟨FirstByte.char.inj (hfirst.symm.trans hfirst'), hmore⟩
  · cases hfirst.symm.trans hfirst'
  · cases hfirst.symm.trans hfirst'
  · obtain rfl := FirstByte.start.inj (hfirst.symm.trans hfirst')
    exact hbs.unique hbs'

namespace PendingChar

/-- Some byte is admitted next. -/
structure Valid (p : PendingChar) : Prop where
  left_pos : 0 < p.left
  low_le_high : p.low ≤ p.high
  high_lt : p.high < 256

theorem Valid.next (hleft : p.left ≠ 1) (h : p.Valid) (b : UInt8) : (p.next b).Valid where
  left_pos := by
    have hpos := h.left_pos
    dsimp only [PendingChar.next]
    omega
  low_le_high := show 0x80 ≤ 0xBF by decide
  high_lt := show 0xBF < 256 by decide

theorem Valid.exists_completes (h : p.Valid) : ∃ c bs, p.Completes c bs := by
  generalize hn : p.left = n
  induction n generalizing p with
  | zero => exact absurd hn (Nat.ne_of_gt h.left_pos)
  | succ n ih =>
    have hhigh := Nat.lt_of_le_of_lt h.low_le_high h.high_lt
    have hb : (UInt8.ofNat p.low).toNat = p.low := (ofNat_eq_iff hhigh).1 rfl
    have hadmits : p.Admits (UInt8.ofNat p.low) := by
      rw [Admits, hb]
      exact ⟨Nat.le_refl _, h.low_le_high⟩
    by_cases hleft : p.left = 1
    · exact ⟨_, _, .last hleft hadmits rfl⟩
    · have hnext : (p.next (UInt8.ofNat p.low)).left = n := by
        dsimp only [PendingChar.next]
        omega
      obtain ⟨c, bs, hbs⟩ := ih (h.next hleft _) hnext
      exact ⟨c, _, .more hleft hadmits hbs⟩

end PendingChar

/-- The bytes have started a character. -/
structure Started (p : PendingChar) (seen : List UInt8) : Prop where
  ne_nil : seen ≠ []
  valid : p.Valid
  completes : ∀ c bs, String.utf8EncodeChar c = seen ++ bs ↔ p.Completes c bs

theorem firstByte_valid (h : firstByte n = .start p) : p.Valid := by
  rcases firstByte_eq_start h with ⟨-, -, rfl⟩ | ⟨-, -, rfl⟩ | ⟨-, -, rfl⟩ <;> constructor <;>
    dsimp only <;> repeat' split
  all_goals omega

theorem Started.of_firstByte (h : firstByte b.toNat = .start p) : Started p [b] where
  ne_nil := List.cons_ne_nil _ _
  valid := firstByte_valid h
  completes c bs := by
    rw [List.singleton_append, utf8EncodeChar_eq_cons_iff]
    constructor
    · rintro (⟨hchar, -⟩ | ⟨p', hfirst, hbs⟩)
      · cases h.symm.trans hchar
      · rwa [FirstByte.start.inj (h.symm.trans hfirst)]
    · exact fun hbs => .inr ⟨p, h, hbs⟩

section

variable {seen : List UInt8}

theorem Started.next (h : Started p seen) (hleft : p.left ≠ 1) (hb : p.Admits b) :
    Started (p.next b) (seen ++ [b]) where
  ne_nil := by simp
  valid := h.valid.next hleft b
  completes c bs := by
    rw [List.append_assoc, List.singleton_append, h.completes]
    constructor
    · intro hbs
      obtain ⟨b', rest, heq, -, hrest⟩ := hbs.of_more hleft
      obtain ⟨rfl, rfl⟩ := List.cons.inj heq
      exact hrest
    · exact .more hleft hb

theorem Started.admits (h : Started p seen) (hbegins : seen ++ [b] <+: String.utf8EncodeChar c) :
    p.Admits b := by
  obtain ⟨bs, hbs⟩ := hbegins
  rw [List.append_assoc, List.singleton_append] at hbs
  cases (h.completes c _).1 hbs.symm with
  | last _ hb => exact hb
  | more _ hb => exact hb

theorem Started.malformed {rest : List UInt8} (h : Started p seen)
    (hrest : ∀ b ∈ rest.head?, ¬ p.Admits b) : Malformed seen rest := by
  obtain ⟨c, bs, hbs⟩ := h.valid.exists_completes
  have hc := (h.completes c bs).2 hbs
  refine ⟨h.ne_nil, ?_, .inr ⟨c, bs, hc.symm⟩, fun b hb c hbegins => hrest b hb (h.admits hbegins)⟩
  rintro c' ⟨behind, hbehind⟩
  rcases List.append_eq_append_iff.1 hbehind with ⟨as, hseen, -⟩ | ⟨bs', hc', hrest'⟩
  -- An encoding among the bytes seen goes on as the one that they have started.
  · rw [hseen, List.append_assoc] at hc
    obtain ⟨-, hnil⟩ := utf8EncodeChar_of_prefix hc
    rw [(List.append_eq_nil_iff.1 hnil).2] at hbs
    cases hbs
  · have hcompletes := (h.completes c' bs').1 hc'
    subst hrest'
    cases hcompletes with
    | last _ hb => exact hrest _ rfl hb
    | more _ hb => exact hrest _ rfl hb

end

theorem decodeFrom_none_cons (b : UInt8) (bs : List UInt8) : decodeFrom none (b :: bs) =
    match firstByte b.toNat with
    | .char c => some c :: decodeFrom none bs
    | .start p => decodeFrom (some p) bs
    | .malformed => none :: decodeFrom none bs :=
  rfl

theorem decodeFrom_some_cons (p : PendingChar) (b : UInt8) (bs : List UInt8) :
    decodeFrom (some p) (b :: bs) =
      if p.low ≤ b.toNat ∧ b.toNat ≤ p.high then
        if p.left = 1 then some (Char.ofNat (p.valueWith b)) :: decodeFrom none bs
        else decodeFrom (some (p.next b)) bs
      else none :: decodeFrom none (b :: bs) :=
  rfl

theorem malformed_of_firstByte (h : firstByte b.toNat = .malformed) : Malformed [b] bs := by
  have hne (c : Char) (bs : List UInt8) : String.utf8EncodeChar c ≠ b :: bs := by
    rw [ne_eq, utf8EncodeChar_eq_cons_iff, h]
    rintro (⟨hfirst, -⟩ | ⟨p, hfirst, -⟩) <;> cases hfirst
  refine ⟨List.cons_ne_nil b [], ?_, .inl rfl, ?_⟩
  · rintro c ⟨behind, hc⟩
    rcases List.append_eq_cons_iff.1 hc with ⟨hnil, -⟩ | ⟨rest, hcons, -⟩
    · exact String.utf8EncodeChar_ne_nil hnil
    · exact hne c rest hcons
  · rintro b' - c ⟨behind, hc⟩
    exact hne c _ hc.symm

theorem decodes_decodeFrom (bytes : List UInt8) : Decodes bytes (decodeFrom none bytes) ∧
    ∀ p seen, Started p seen → Decodes (seen ++ bytes) (decodeFrom (some p) bytes) := by
  induction bytes with
  | nil => exact ⟨.nil, fun p seen h => .malformed (h.malformed fun b hb => by cases hb) .nil⟩
  | cons b bs ih =>
    obtain ⟨hdecodes, hpending⟩ := ih
    have hfresh : Decodes (b :: bs) (decodeFrom none (b :: bs)) := by
      rw [decodeFrom_none_cons]
      cases hfirst : firstByte b.toNat with
      | char c =>
        have hchar := Decodes.char c hdecodes
        rwa [utf8EncodeChar_of_char hfirst] at hchar
      | start p => exact hpending p [b] (.of_firstByte hfirst)
      | malformed => exact .malformed (malformed_of_firstByte hfirst) hdecodes
    refine ⟨hfresh, fun p seen h => ?_⟩
    rw [decodeFrom_some_cons, List.append_cons]
    split
    · rename_i hb
      split
      · rename_i hleft
        rw [← (h.completes _ [b]).2 (.last hleft hb rfl)]
        exact .char _ hdecodes
      · rename_i hleft
        exact hpending _ _ (h.next hleft hb)
    · rename_i hb
      rw [← List.append_cons]
      refine .malformed (h.malformed fun b' hb' => ?_) hfresh
      rwa [← Option.some.inj hb']

theorem Malformed.eq_nil {part more rest rest' : List UInt8} (h : Malformed part rest)
    (h' : Malformed (part ++ more) rest') (hrest : rest = more ++ rest') : more = [] := by
  cases more with
  | nil => rfl
  | cons b more =>
    rcases h'.starts with hone | ⟨c, hbegins⟩
    · have hpos := List.length_pos_of_ne_nil h.ne_nil
      simp only [List.length_append, List.length_cons] at hone
      omega
    · rw [List.append_cons] at hbegins
      exact absurd ((List.prefix_append _ _).trans hbegins) (h.longest b (by rw [hrest]; rfl) c)

theorem Decodes.unique {bytes bytes' : List UInt8} {parts parts' : List (Option Char)}
    (h : Decodes bytes parts) (h' : Decodes bytes' parts') (hbytes : bytes = bytes') :
    parts = parts' := by
  induction h generalizing bytes' parts' with
  | nil =>
    cases h' with
    | nil => rfl
    | char c => exact absurd (List.append_eq_nil_iff.1 hbytes.symm).1 String.utf8EncodeChar_ne_nil
    | malformed hpart => exact absurd (List.append_eq_nil_iff.1 hbytes.symm).1 hpart.ne_nil
  | char c hrest ih =>
    cases h' with
    | nil => exact absurd (List.append_eq_nil_iff.1 hbytes).1 String.utf8EncodeChar_ne_nil
    | char c' hrest' =>
      rcases List.append_eq_append_iff.1 hbytes with ⟨more, hc, hmore⟩ | ⟨more, hc, hmore⟩ <;>
        obtain ⟨rfl, rfl⟩ := utf8EncodeChar_of_prefix hc
      · rw [ih hrest' hmore]
      · rw [ih hrest' hmore.symm]
    | malformed hpart => exact absurd ⟨_, hbytes⟩ (hpart.not_prefix c)
  | malformed hpart hrest ih =>
    cases h' with
    | nil => exact absurd (List.append_eq_nil_iff.1 hbytes).1 hpart.ne_nil
    | char c' => exact absurd ⟨_, hbytes.symm⟩ (hpart.not_prefix c')
    | malformed hpart' hrest' =>
      rcases List.append_eq_append_iff.1 hbytes with ⟨more, rfl, hmore⟩ | ⟨more, rfl, hmore⟩
      · obtain rfl := hpart.eq_nil hpart' hmore
        rw [ih hrest' hmore]
      · obtain rfl := hpart'.eq_nil hpart hmore
        rw [ih hrest' hmore.symm]

end

/-- Each byte sequence has parts in one way, and decoding finds them. -/
theorem decodes_iff {bytes : List UInt8} {parts : List (Option Char)} :
    Decodes bytes parts ↔ decode bytes = parts := by
  have hdecodes : Decodes bytes (decode bytes) := (decodes_decodeFrom bytes).1
  constructor
  · exact fun h => hdecodes.unique h rfl
  · rintro rfl
    exact hdecodes

theorem Decodes.of_text (text : List Char) :
    Decodes (text.flatMap String.utf8EncodeChar) (text.map some) := by
  induction text with
  | nil => exact .nil
  | cons c text ih => exact .char c ih

/-- Text in bytes is decoded to itself. -/
theorem decodeLossy_flatMap_utf8EncodeChar (text : List Char) :
    decodeLossy (text.flatMap String.utf8EncodeChar) = text := by
  rw [decodeLossy, decodes_iff.1 (.of_text text), List.map_map]
  exact List.map_id text

end Licensing.Text
