import DisplayEnv.Color
import DisplayEnv.Font
import Mathlib.Algebra.GroupWithZero.Nat
import Mathlib.Data.List.Basic

/-!
# Descriptors by their texts

The caches compare the fields of a descriptor, while a log line or an error shows only its text. The
two agree: different descriptors have different texts.

* A color is written on six places or on eight, so the count of places tells the two forms apart
  (`Color.length_text`), and either form shows the bits it does not leave out (`Hex.fixed_inj`).
* A font is written as words without digits, then the digits of its size, then the rest. A name may
  look like a font itself; it does not matter, since the first digit ends the words and the first
  character behind it that is no digit ends the size (`eq_of_append_eq`).
* `Color.sum_channels`, `Color.toNat_rgb`: the number of a color is the sum of its channels, each on
  its own eight bits.
-/

namespace DisplayEnv

/-! ## Numbers on places -/

namespace Hex

theorem digit_inj {d e : ℕ} (hd : d < 16) (he : e < 16) : digit d = digit e ↔ d = e := by
  have all : ∀ d < 16, ∀ e < 16, digit d = digit e → d = e := by decide
  exact ⟨all d hd e he, congrArg digit⟩

/-- So many places show a number up to multiples of the first power of 16 that they cannot show. -/
theorem low_inj (width m n : ℕ) : low width m = low width n ↔ m % 16 ^ width = n % 16 ^ width := by
  induction width generalizing m n with
  | zero => simp [low, Nat.mod_one]
  | succ w ih =>
    have last : digit (m % 16) = digit (n % 16) ↔ m % 16 = n % 16 :=
      digit_inj (Nat.mod_lt m (by omega)) (Nat.mod_lt n (by omega))
    rw [pow_succ', Nat.mod_mul, Nat.mod_mul]
    constructor
    · intro same
      obtain ⟨front, back⟩ := List.append_inj' same rfl
      rw [(ih _ _).mp front, last.mp (List.head_eq_of_cons_eq back)]
    · intro same
      -- the last place is the sum modulo 16, the others are what is left of it
      have units : m % 16 = n % 16 := by omega
      have front : m / 16 % 16 ^ w = n / 16 % 16 ^ w := by omega
      rw [low, low, (ih _ _).mpr front, units]

theorem fixed_inj (width m n : ℕ) :
    fixed width m = fixed width n ↔ m % 16 ^ width = n % 16 ^ width := by
  rw [fixed, fixed, String.ofList_inj, low_inj]

theorem length_fixed (width n : ℕ) : (fixed width n).length = width := by
  rw [fixed, String.length_ofList, length_low]

end Hex

/-! ## Colors -/

namespace Color

variable {c d : Color}

/-- A channel is eight bits of the color, counted from the first of them. -/
theorem toNat_channel (c : Color) (shift : UInt32) :
    (c.channel shift).toNat = c.argb.toNat / 2 ^ (shift.toNat % 32) % 2 ^ 8 := by
  rw [channel, UInt32.toNat_toUInt8, UInt32.toNat_shiftRight, Nat.shiftRight_eq_div_pow]

theorem toNat_channels (c : Color) :
    c.a.toNat = c.argb.toNat / 0x1000000 ∧ c.r.toNat = c.argb.toNat / 0x10000 % 0x100 ∧
      c.g.toNat = c.argb.toNat / 0x100 % 0x100 ∧ c.b.toNat = c.argb.toNat % 0x100 := by
  have bits : c.argb.toNat < 2 ^ 32 := c.argb.toNat_lt
  refine ⟨?_, c.toNat_channel 16, c.toNat_channel 8, ?_⟩
  · -- nothing is above the alpha
    have alpha : c.a.toNat = c.argb.toNat / 0x1000000 % 0x100 := c.toNat_channel 24
    omega
  · have blue : c.b.toNat = c.argb.toNat / 1 % 0x100 := c.toNat_channel 0
    omega

/-- The four channels recompose the number of a color. -/
theorem sum_channels (c : Color) :
    c.argb.toNat =
      c.a.toNat * 0x1000000 + c.r.toNat * 0x10000 + c.g.toNat * 0x100 + c.b.toNat := by
  obtain ⟨a, r, g, b⟩ := c.toNat_channels
  omega

/-- A byte that moves up by no more than three channels keeps all its bits. -/
theorem toNat_shift (x : UInt8) {k : UInt32} (hk : k.toNat ≤ 24) :
    (x.toUInt32 <<< k).toNat = x.toNat <<< k.toNat := by
  have within : x.toNat <<< k.toNat < 2 ^ 32 := by
    rw [Nat.shiftLeft_eq]
    calc x.toNat * 2 ^ k.toNat ≤ x.toNat * 2 ^ 24 :=
          Nat.mul_le_mul_left _ (Nat.pow_le_pow_right (by omega) hk)
      _ < 2 ^ 32 := by
          have byte := x.toNat_lt
          omega
  have short : k.toNat % 32 = k.toNat := Nat.mod_eq_of_lt (by omega)
  rw [UInt32.toNat_shiftLeft, UInt8.toNat_toUInt32, short, Nat.mod_eq_of_lt within]

theorem toNat_rgb (r g b : UInt8) :
    (rgb r g b).argb.toNat = 0xff000000 + r.toNat * 0x10000 + g.toNat * 0x100 + b.toNat := by
  have hr := r.toNat_lt
  have hg := g.toNat_lt
  -- an or of a shifted number and one below the shift is a sum, so the channels are taken from the
  -- lowest up
  have low : b.toNat < 2 ^ 8 := b.toNat_lt
  have middle : g.toNat <<< 8 + b.toNat < 2 ^ 16 := by
    rw [Nat.shiftLeft_eq]
    omega
  have high : r.toNat <<< 16 + (g.toNat <<< 8 + b.toNat) < 2 ^ 24 := by
    rw [Nat.shiftLeft_eq, Nat.shiftLeft_eq]
    omega
  have alpha_bits : (0xff000000 : UInt32).toNat = 255 <<< 24 := rfl
  have sum : (rgb r g b).argb.toNat =
      255 <<< 24 + (r.toNat <<< 16 + (g.toNat <<< 8 + b.toNat)) := by
    unfold rgb
    rw [UInt32.toNat_or, UInt32.toNat_or, UInt32.toNat_or, toNat_shift r (by decide),
      toNat_shift g (by decide), UInt8.toNat_toUInt32, alpha_bits, Nat.or_assoc, Nat.or_assoc]
    rw [Nat.shiftLeft_add_eq_or_of_lt high, Nat.shiftLeft_add_eq_or_of_lt middle,
      Nat.shiftLeft_add_eq_or_of_lt low]
    rfl
  rw [sum, Nat.shiftLeft_eq, Nat.shiftLeft_eq, Nat.shiftLeft_eq]
  omega

theorem channels_rgb (r g b : UInt8) :
    (rgb r g b).a = 255 ∧ (rgb r g b).r = r ∧ (rgb r g b).g = g ∧ (rgb r g b).b = b := by
  have hr := r.toNat_lt
  have hg := g.toNat_lt
  have hb := b.toNat_lt
  have sum := toNat_rgb r g b
  obtain ⟨ha', hr', hg', hb'⟩ := (rgb r g b).toNat_channels
  simp only [← UInt8.toNat_inj]
  refine ⟨?_, ?_, ?_, ?_⟩
  · rw [ha']
    show _ = 255
    omega
  · omega
  · omega
  · omega

theorem length_text (c : Color) : c.text.length = if c.a = 255 then 7 else 9 := by
  unfold text
  split
  · rw [String.length_append, Hex.length_fixed]
    rfl
  · rw [String.length_append, Hex.length_fixed]
    rfl

theorem a_eq_iff : c.a = 255 ↔ 0xff000000 ≤ c.argb.toNat := by
  have bits : c.argb.toNat < 2 ^ 32 := c.argb.toNat_lt
  rw [← UInt8.toNat_inj, c.toNat_channels.1]
  show _ = 255 ↔ _
  omega

theorem text_inj : c.text = d.text ↔ c.argb = d.argb := by
  constructor
  · intro same
    have bits : c.argb.toNat < 2 ^ 32 := c.argb.toNat_lt
    have bits' : d.argb.toNat < 2 ^ 32 := d.argb.toNat_lt
    have lengths := congrArg String.length same
    rw [length_text, length_text] at lengths
    rw [← UInt32.toNat_inj]
    unfold text at same
    by_cases full : c.a = 255
    · by_cases full' : d.a = 255
      · -- the alpha is known, and six places show all the rest
        rw [if_pos full, if_pos full', String.append_right_inj, Hex.fixed_inj] at same
        rw [a_eq_iff] at full full'
        omega
      · rw [if_pos full, if_neg full'] at lengths
        omega
    · by_cases full' : d.a = 255
      · rw [if_neg full, if_pos full'] at lengths
        omega
      · rw [if_neg full, if_neg full', String.append_right_inj, Hex.fixed_inj] at same
        omega
  · intro same
    cases c
    cases d
    cases same
    rfl

end Color

/-! ## Fonts -/

section Cuts

variable {α : Type} {p : α → Bool} {xs ys rs ss : List α}

/-- A list can be cut in one way only into a part on which `p` holds and a rest that does not start
with more of it. -/
theorem eq_of_append_eq (hxs : ∀ z ∈ xs, p z) (hys : ∀ z ∈ ys, p z) (hrs : rs.takeWhile p = [])
    (hss : ss.takeWhile p = []) (same : xs ++ rs = ys ++ ss) : xs = ys ∧ rs = ss := by
  have taken := congrArg (List.takeWhile p) same
  rw [List.takeWhile_append_of_pos hxs, List.takeWhile_append_of_pos hys, hrs, hss,
    List.append_nil, List.append_nil] at taken
  subst taken
  exact ⟨rfl, List.append_cancel_left same⟩

end Cuts

namespace Font

/-- The words in front of the size. -/
def style (bold italic : Bool) : String :=
  (if bold then "bold " else "") ++ (if italic then "italic " else "")

theorem style_inj : ∀ {b i b' i' : Bool}, style b i = style b' i' → b = b' ∧ i = i' := by
  decide

theorem digitless_style (bold italic : Bool) :
    ∀ z ∈ (style bold italic).toList, !z.isDigit := by
  have all : (style bold italic).toList.all (fun z => !z.isDigit) := by
    cases bold <;> cases italic <;> rfl
  exact List.all_eq_true.mp all

theorem isDigit_size (n : ℕ) : ∀ z ∈ Nat.toDigits 10 n, z.isDigit := fun _ hz =>
  Nat.isDigit_of_mem_toDigits (by omega) (by omega) hz

/-- The words in front of a size do not go on into its digits. -/
theorem takeWhile_size (n : ℕ) (rest : List Char) :
    (Nat.toDigits 10 n ++ rest).takeWhile (fun z => !z.isDigit) = [] := by
  obtain ⟨z, zs, cut⟩ := List.exists_cons_of_ne_nil (Nat.toDigits_ne_nil (n := n) (b := 10))
  have digit : z.isDigit := isDigit_size n z (cut ▸ List.mem_cons_self)
  rw [cut, List.cons_append, List.takeWhile_cons_of_neg (by simp [digit])]

theorem toList_text (f : Font) :
    f.text.toList = (style f.bold f.italic).toList ++
      (Nat.toDigits 10 f.size.toNat ++ ("pt ".toList ++ f.name.toList)) := by
  rw [text, ← style]
  simp only [String.toList_append, Nat.toString_eq_repr, Nat.toList_repr, List.append_assoc]

theorem text_inj {f g : Font} : f.text = g.text ↔
    f.name = g.name ∧ f.size = g.size ∧ f.bold = g.bold ∧ f.italic = g.italic := by
  constructor
  · intro same
    rw [← String.toList_inj, toList_text, toList_text] at same
    -- the first digit ends the words, and the first character that is no digit ends the size
    obtain ⟨words, same⟩ := eq_of_append_eq (digitless_style _ _) (digitless_style _ _)
      (takeWhile_size _ _) (takeWhile_size _ _) same
    obtain ⟨digits, same⟩ := eq_of_append_eq (isDigit_size _) (isDigit_size _) rfl rfl same
    have name : f.name = g.name := String.toList_inj.mp (List.append_cancel_left same)
    have size : f.size.toNat = g.size.toNat := by
      rw [← Nat.ofDigitChars_ten_toDigits (n := f.size.toNat), digits,
        Nat.ofDigitChars_ten_toDigits]
    exact ⟨name, UInt32.toNat_inj.mp size, style_inj (String.toList_inj.mp words)⟩
  · rintro ⟨name, size, bold, italic⟩
    rw [text, text, name, size, bold, italic]

/-- A name that looks like a font belongs to the font whose size stands first. -/
example : (Font.mk "italic 12pt Arial" 9 true false).text = "bold 9pt italic 12pt Arial" := by
  decide

end Font

/-- **Texts tell descriptors apart**, whatever their names, sizes and channels, and the channels of a
color are all of it. -/
theorem texts_identify :
    (∀ f g : Font, f.text = g.text ↔
      f.name = g.name ∧ f.size = g.size ∧ f.bold = g.bold ∧ f.italic = g.italic) ∧
    (∀ c d : Color, c.text = d.text ↔ c.argb = d.argb) ∧
    (∀ c : Color, c.argb.toNat =
      c.a.toNat * 0x1000000 + c.r.toNat * 0x10000 + c.g.toNat * 0x100 + c.b.toNat) ∧
    ∀ r g b : UInt8, (Color.rgb r g b).a = 255 ∧ (Color.rgb r g b).r = r ∧
      (Color.rgb r g b).g = g ∧ (Color.rgb r g b).b = b :=
  ⟨fun _ _ => Font.text_inj, fun _ _ => Color.text_inj, Color.sum_channels, Color.channels_rgb⟩

end DisplayEnv
