import ApiModel.Text.Case
import ApiModel.Text.Class

/-!
# ASCII texts

On ASCII characters the classes and the case forms of text are those of single characters
(`Text.isAlphanumeric_eq`, `Text.lowerForm_eq`), so what case does to them can be checked one code
point after the other (`Text.forall_ascii`): changing the case of an ASCII letter or digit gives one
again.
-/

namespace ApiModel.Text

/-- A text of ASCII characters. -/
def Ascii (s : List Char) : Prop :=
  ∀ c ∈ s, c.toNat < 0x80

/-- A text of ASCII letters and digits. -/
def Plain (w : List Char) : Prop :=
  ∀ c ∈ w, c.isAlphanum = true

/-- A text of digits. -/
def Digits (ds : List Char) : Prop :=
  ∀ d ∈ ds, d.isDigit = true

instance (s : List Char) : Decidable (Ascii s) :=
  List.decidableBAll _ s

instance (w : List Char) : Decidable (Plain w) :=
  List.decidableBAll _ w

variable {c : Char} {s t w ds : List Char}

/-! ### Characters -/

theorem toNat_lt_of_isAlphanum (hc : c.isAlphanum = true) : c.toNat < 0x80 := by
  delta Char.isAlphanum Char.isAlpha Char.isUpper Char.isLower Char.isDigit at hc
  simp only [Bool.or_eq_true, Bool.and_eq_true, decide_eq_true_eq, ge_iff_le, UInt32.le_iff_toNat_le,
    Char.reduceVal, UInt32.reduceToNat, Char.toNat_val] at hc
  omega

/-- What holds of the first 128 code points holds of every ASCII character. -/
theorem forall_ascii {P : Char → Prop} (h : ∀ n < 0x80, P (Char.ofNat n)) :
    ∀ c : Char, c.toNat < 0x80 → P c := fun c hc => by
  have hp := h c.toNat hc
  rwa [Char.ofNat_toNat] at hp

theorem isAlphanumeric_eq (hc : c.toNat < 0x80) : isAlphanumeric c = c.isAlphanum :=
  if_pos hc

theorem lowerForm_eq (hc : c.toNat < 0x80) : lowerForm c = [c.toLower] :=
  if_pos hc

theorem upperForm_eq (hc : c.toNat < 0x80) : upperForm c = [c.toUpper] :=
  if_pos hc

theorem toLower_eq_or_isAlpha : ∀ c : Char, c.toNat < 0x80 →
    c.toLower = c ∨ c.toLower.isAlpha = true :=
  forall_ascii (by decide)

theorem toUpper_eq_or_isAlpha : ∀ c : Char, c.toNat < 0x80 →
    c.toUpper = c ∨ c.toUpper.isAlpha = true :=
  forall_ascii (by decide)

theorem toLower_toLower : ∀ c : Char, c.toNat < 0x80 → c.toLower.toLower = c.toLower :=
  forall_ascii (by decide)

theorem toUpper_toUpper : ∀ c : Char, c.toNat < 0x80 → c.toUpper.toUpper = c.toUpper :=
  forall_ascii (by decide)

theorem isUpper_toLower : ∀ c : Char, c.toNat < 0x80 → isUpper c.toLower = false :=
  forall_ascii (by decide)

theorem isLower_toLower : ∀ c : Char, c.toNat < 0x80 →
    isUpper c = true ∨ isLower c = true → isLower c.toLower = true :=
  forall_ascii (by decide)

theorem isLower_of_isUpper : ∀ c : Char, c.toNat < 0x80 → isUpper c = true → isLower c = false :=
  forall_ascii (by decide)

theorem toLower_of_not_isUpper : ∀ c : Char, c.toNat < 0x80 → isUpper c = false → c.toLower = c :=
  forall_ascii (by decide)

theorem toUpper_of_isUpper : ∀ c : Char, c.toNat < 0x80 → isUpper c = true → c.toUpper = c :=
  forall_ascii (by decide)

theorem toLower_of_isDigit : ∀ c : Char, c.toNat < 0x80 → c.isDigit = true → c.toLower = c :=
  forall_ascii (by decide)

theorem isAlphanum_of_eq_or_isAlpha {d : Char} (hd : d = c ∨ d.isAlpha = true)
    (hc : c.isAlphanum = true) : d.isAlphanum = true := by
  rcases hd with rfl | ha
  · exact hc
  · rw [Char.isAlphanum, ha, Bool.true_or]

theorem isAlphanum_toLower (hc : c.isAlphanum = true) : c.toLower.isAlphanum = true :=
  isAlphanum_of_eq_or_isAlpha (toLower_eq_or_isAlpha c (toNat_lt_of_isAlphanum hc)) hc

theorem isAlphanum_toUpper (hc : c.isAlphanum = true) : c.toUpper.isAlphanum = true :=
  isAlphanum_of_eq_or_isAlpha (toUpper_eq_or_isAlpha c (toNat_lt_of_isAlphanum hc)) hc

/-! ### Texts -/

theorem Plain.ascii (hs : Plain s) : Ascii s := fun c hc =>
  toNat_lt_of_isAlphanum (hs c hc)

theorem Plain.of_cons (hw : Plain (c :: w)) : Plain w :=
  (List.forall_mem_cons.1 hw).2

theorem Digits.plain (hd : Digits ds) : Plain ds := fun d h => by
  rw [Char.isAlphanum, hd d h, Bool.or_true]

theorem Digits.map_toLower (hd : Digits ds) : ds.map Char.toLower = ds :=
  (List.map_congr_left fun d h => toLower_of_isDigit d (hd.plain.ascii d h) (hd d h)).trans
    (List.map_id' ds)

theorem plain_append (hs : Plain s) (ht : Plain t) : Plain (s ++ t) := fun c hc =>
  (List.mem_append.1 hc).elim (hs c) (ht c)

theorem ascii_append (hs : Ascii s) (ht : Ascii t) : Ascii (s ++ t) := fun c hc =>
  (List.mem_append.1 hc).elim (hs c) (ht c)

end ApiModel.Text
