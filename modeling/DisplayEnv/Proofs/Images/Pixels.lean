import DisplayEnv.Picture.Load

/-!
# Decoded pictures have four bytes a pixel

Every format is read in its own way: the rows of a bitmap are cut out of the file, a pixmap's pixels
stand behind its header, and those of a PNG file are unpacked and undone row by row. What comes out
has the same shape in all of them: a width and a height of 32 bits, and four bytes for each pixel.

* `Bytes.length_flatMap_chunks`: pieces of one length, each of which is made a pixel.
* `Png.sized`, `Netpbm.sized`, `Bitmap.sized`, `Picture.decode_sized`: what the decoders give.
-/

namespace DisplayEnv

variable {bytes : List UInt8} {p : Nat × Nat × List UInt8}

/-- Width, height and pixels of a picture: the size has 32 bits a side, and a pixel four bytes. -/
structure Picture.Sized (p : Nat × Nat × List UInt8) : Prop where
  width : p.1 < 0x100000000
  height : p.2.1 < 0x100000000
  rgba : p.2.2.length = 4 * p.1 * p.2.1

/-! ## Pieces of bytes -/

/-- Rows that are made the same number of bytes each. -/
theorem length_flatMap_rows {rows : List (List UInt8)} {f : List UInt8 → List UInt8} {k : Nat}
    (row : ∀ r ∈ rows, (f r).length = k) : (rows.flatMap f).length = rows.length * k := by
  rw [List.length_flatMap, List.map_congr_left row, List.map_const', List.sum_replicate_nat]

namespace Bytes

/-- As many pieces as fit. -/
theorem chunks_of_length {n k : Nat} (pos : 0 < n) {bs : List UInt8} (length : bs.length = k * n) :
    (chunks n bs).length = k ∧ ∀ piece ∈ chunks n bs, piece.length = n := by
  induction k generalizing bs with
  | zero =>
    rw [chunks, dif_neg (by omega)]
    exact ⟨rfl, nofun⟩
  | succ k ih =>
    rw [Nat.succ_mul] at length
    have less : (bs.drop n).length = k * n := by
      rw [List.length_drop]
      omega
    obtain ⟨count, pieces⟩ := ih less
    rw [chunks, dif_pos ⟨pos, by omega⟩]
    refine ⟨congrArg (· + 1) count, fun piece mem => ?_⟩
    rcases List.mem_cons.mp mem with rfl | mem
    · exact List.length_take_of_le (by omega)
    · exact pieces piece mem

/-- Pieces of length `n` that are made a pixel each. -/
theorem length_flatMap_chunks {n k : Nat} {f : List UInt8 → List UInt8} (pos : 0 < n)
    (pixel : ∀ piece, piece.length = n → (f piece).length = 4) {bs : List UInt8}
    (length : bs.length = k * n) : ((chunks n bs).flatMap f).length = 4 * k := by
  obtain ⟨count, pieces⟩ := chunks_of_length pos length
  rw [length_flatMap_rows fun piece mem => pixel piece (pieces piece mem), count, Nat.mul_comm]

theorem length_of_slice? {start n : Nat} {bs piece : List UInt8}
    (h : slice? start n bs = some piece) : piece.length = n := by
  obtain ⟨⟨_, rest⟩, taken, rfl⟩ := Option.map_eq_some_iff.mp h
  exact (length_of_take? taken).1

end Bytes

/-! ## Portable network graphics -/

namespace Png

theorem Layout.samples_pos (layout : Layout) : 0 < layout.samples := by
  cases layout <;> decide

theorem length_pixel (layout : Layout) (palette alphas : List UInt8) {piece : List UInt8}
    (length : piece.length = layout.samples) : (pixel layout palette alphas piece).length = 4 := by
  match layout, piece, length with
  | .gray, [_], _ | .grayAlpha, [_, _], _ | .rgb, [_, _, _], _ | .rgba, [_, _, _, _], _ => rfl
  | .palette, [_], _ =>
    unfold pixel
    simp only
    split <;> rfl

theorem length_unfilter (filter : Nat) (row above left corner : List UInt8) :
    (unfilter filter row above left corner).length = row.length := by
  induction row generalizing above left corner with
  | nil => rfl
  | cons x row ih => exact congrArg (· + 1) (ih _ _ _)

theorem length_of_rows? {samples width height : Nat} {above data : List UInt8}
    {rows : List (List UInt8)} (h : rows? samples width height above data = some rows) :
    rows.length = height ∧ ∀ r ∈ rows, r.length = width * samples := by
  induction height generalizing above data rows with
  | zero =>
    cases h
    exact ⟨rfl, nofun⟩
  | succ height ih =>
    obtain ⟨⟨line, rest⟩, taken, h⟩ := Option.bind_eq_some_iff.mp h
    have length := (Bytes.length_of_take? taken).1
    cases line with
    | nil => cases h
    | cons filter row =>
      simp only at h
      split at h
      · cases h
      · obtain ⟨below, more, h⟩ := Option.bind_eq_some_iff.mp h
        cases h
        obtain ⟨count, lengths⟩ := ih more
        refine ⟨congrArg (· + 1) count, fun r mem => ?_⟩
        rcases List.mem_cons.mp mem with rfl | mem
        · rw [length_unfilter]
          exact Nat.succ.inj length
        · exact lengths r mem

theorem header?_size {body : List UInt8} {header : Header} (h : header? body = some header) :
    header.width < 0x80000000 ∧ header.height < 0x80000000 := by
  simp only [header?, Option.bind_eq_bind] at h
  split at h
  · cases h
  · obtain ⟨depth, -, h⟩ := Option.bind_eq_some_iff.mp h
    obtain ⟨color, -, h⟩ := Option.bind_eq_some_iff.mp h
    obtain ⟨layout, -, h⟩ := Option.bind_eq_some_iff.mp h
    split at h
    · cases h
    · rename_i bounds
      split at h
      · cases h
      · cases h
        simp only
        omega

/-- A header that is in order, if there is one. -/
def Progress.Sound (p : Progress) : Prop :=
  ∀ h, p.header = some h → h.width < 0x80000000 ∧ h.height < 0x80000000

/-- The header was read from an `IHDR` chunk, and nothing but that chunk sets it. -/
theorem gather?_sound {bound : Nat} {p q : Progress} (start : p.Sound)
    (h : gather? bound p bytes = some q) : q.Sound := by
  fun_induction gather? bound p bytes
  case case8 ih =>
    obtain ⟨header, read, h⟩ := Option.bind_eq_some_iff.mp h
    refine ih header ?_ h
    rintro _ ⟨rfl⟩
    exact header?_size read
  -- everything else ends here, or goes on with the same header
  all_goals first
    | cases h; done
    | cases h; exact start
    | rename_i ih; exact ih start h

theorem sized (h : decode? bytes = some p) : Picture.Sized p := by
  obtain ⟨⟨head, rest⟩, -, h⟩ := Option.bind_eq_some_iff.mp h
  obtain ⟨-, h⟩ := Option.ite_none_left_eq_some.mp h
  obtain ⟨q, gathered, h⟩ := Option.bind_eq_some_iff.mp h
  obtain ⟨header, there, h⟩ := Option.bind_eq_some_iff.mp h
  obtain ⟨-, h⟩ := Option.ite_none_left_eq_some.mp h
  obtain ⟨data, -, h⟩ := Option.bind_eq_some_iff.mp h
  obtain ⟨-, h⟩ := Option.ite_none_left_eq_some.mp h
  obtain ⟨rows, read, h⟩ := Option.bind_eq_some_iff.mp h
  cases h
  have start : Progress.Sound ⟨none, none, [], []⟩ := fun _ => nofun
  obtain ⟨width, height⟩ := gather?_sound start gathered header there
  obtain ⟨count, lengths⟩ := length_of_rows? read
  refine ⟨by simp only; omega, by simp only; omega, ?_⟩
  have row := fun r mem => Bytes.length_flatMap_chunks header.layout.samples_pos
    (fun _ => length_pixel header.layout (q.palette.getD []) q.alphas) (lengths r mem)
  exact (length_flatMap_rows row).trans (by rw [count, Nat.mul_comm])

end Png

/-! ## Portable graymaps and pixmaps -/

namespace Netpbm

theorem number?_lt {limit n : Nat} {word : List UInt8} (h : number? limit word = some n) :
    n < limit := by
  simp only [number?, Option.ite_none_left_eq_some, Option.ite_none_right_eq_some,
    Option.some.injEq] at h
  obtain ⟨-, small, rfl⟩ := h
  exact small

theorem headerNumber?_lt {n : Nat} {rest : List UInt8}
    (h : headerNumber? bytes = some (n, rest)) : n < 0x100000000 := by
  obtain ⟨word, -, h⟩ := Option.bind_eq_some_iff.mp h
  obtain ⟨m, number, h⟩ := Option.bind_eq_some_iff.mp h
  cases h
  exact number?_lt number

theorem length_pixel {samples : Nat} (kind : samples = 1 ∨ samples = 3) {piece : List UInt8}
    (length : piece.length = samples) : (pixel piece).length = 4 := by
  rcases kind with rfl | rfl
  · match piece, length with
    | [_], _ => rfl
  · match piece, length with
    | [_, _, _], _ => rfl

theorem length_plainSamples? {n : Nat} {data : List UInt8} (h : plainSamples? n bytes = some data) :
    data.length = n := by
  induction n generalizing bytes data with
  | zero =>
    cases h
    rfl
  | succ n ih =>
    obtain ⟨v, -, h⟩ := Option.bind_eq_some_iff.mp h
    obtain ⟨more, read, h⟩ := Option.bind_eq_some_iff.mp h
    cases h
    exact congrArg (· + 1) (ih read)

/-- The samples of a pixel, and whether they are written as decimal numbers. -/
def kind? : List UInt8 → Option (Nat × Bool)
  | [80, 50] => some (1, true)
  | [80, 51] => some (3, true)
  | [80, 53] => some (1, false)
  | [80, 54] => some (3, false)
  | _ => none

/-- What stands behind the kind of the file. -/
def body? (samples : Nat) (plain : Bool) (rest : List UInt8) :
    Option (Nat × Nat × List UInt8) := do
  let (width, rest) ← headerNumber? rest
  let (height, rest) ← headerNumber? rest
  let (greatest, rest) ← headerNumber? rest
  if greatest ≠ 255 then none
  let count := width * height * samples
  if rest.length < count ∧ !plain ∨ 2 * rest.length + 1 < count then none
  let data ← if plain then plainSamples? count rest else (Bytes.take? count rest).map (·.1)
  return (width, height, (Bytes.chunks samples data).flatMap pixel)

theorem decode?_eq (bytes : List UInt8) : decode? bytes =
    (Bytes.take? 2 bytes).bind fun cut => (kind? cut.1).bind fun k => body? k.1 k.2 cut.2 := by
  unfold decode?
  refine congrArg _ (funext fun cut => ?_)
  obtain ⟨head, rest⟩ := cut
  simp only
  split
  case h_5 => simp [kind?, *]
  all_goals rfl

theorem kind?_samples {head : List UInt8} {samples : Nat} {plain : Bool}
    (h : kind? head = some (samples, plain)) : samples = 1 ∨ samples = 3 := by
  unfold kind? at h
  split at h <;> cases h <;> decide

theorem body?_sized {samples : Nat} {plain : Bool} (kind : samples = 1 ∨ samples = 3)
    (h : body? samples plain bytes = some p) : Picture.Sized p := by
  obtain ⟨⟨width, rest⟩, first, h⟩ := Option.bind_eq_some_iff.mp h
  obtain ⟨⟨height, rest⟩, second, h⟩ := Option.bind_eq_some_iff.mp h
  obtain ⟨⟨greatest, rest⟩, -, h⟩ := Option.bind_eq_some_iff.mp h
  obtain ⟨-, h⟩ := Option.ite_none_left_eq_some.mp h
  obtain ⟨-, h⟩ := Option.ite_none_left_eq_some.mp h
  have sized {data : List UInt8} (length : data.length = width * height * samples) :
      Picture.Sized (width, height, (Bytes.chunks samples data).flatMap pixel) := by
    refine ⟨headerNumber?_lt first, headerNumber?_lt second, ?_⟩
    rw [Bytes.length_flatMap_chunks (by omega) (fun _ => length_pixel kind) length, Nat.mul_assoc]
  cases plain with
  | true =>
    obtain ⟨data, read, h⟩ := Option.bind_eq_some_iff.mp h
    cases h
    exact sized (length_plainSamples? read)
  | false =>
    obtain ⟨data, read, h⟩ := Option.bind_eq_some_iff.mp h
    obtain ⟨⟨_, rest⟩, taken, rfl⟩ := Option.map_eq_some_iff.mp read
    cases h
    exact sized (Bytes.length_of_take? taken).1

theorem sized (h : decode? bytes = some p) : Picture.Sized p := by
  rw [decode?_eq] at h
  obtain ⟨⟨head, rest⟩, -, h⟩ := Option.bind_eq_some_iff.mp h
  obtain ⟨⟨samples, plain⟩, kind, h⟩ := Option.bind_eq_some_iff.mp h
  exact body?_sized (kind?_samples kind) h

end Netpbm

/-! ## Bitmap files -/

namespace Bitmap

theorem length_pixel {piece : List UInt8} (length : piece.length = 3) :
    (pixel piece).length = 4 := by
  match piece, length with
  | [_, _, _], _ => rfl

/-- The rows of a picture, without what they are filled up with. A picture without width has no
rows either. -/
theorem length_rows {width height : Nat} {data : List UInt8}
    (length : data.length = (width * 3 + 3) / 4 * 4 * height) {rows : List (List UInt8)}
    (cut : rows = (Bytes.chunks ((width * 3 + 3) / 4 * 4) data).map (·.take (width * 3))) :
    (∀ r ∈ rows, r.length = width * 3) ∧ width * rows.length = width * height := by
  rcases Nat.eq_zero_or_pos width with rfl | pos
  · rw [Bytes.chunks, dif_neg (by omega)] at cut
    cases cut
    exact ⟨nofun, (Nat.zero_mul _).trans (Nat.zero_mul _).symm⟩
  · rw [Nat.mul_comm] at length
    obtain ⟨count, lengths⟩ := Bytes.chunks_of_length (by omega) length
    subst cut
    refine ⟨fun r mem => ?_, by rw [List.length_map, count]⟩
    obtain ⟨piece, there, rfl⟩ := List.mem_map.mp mem
    rw [List.length_take, lengths piece there]
    omega

theorem sized (h : decode? bytes = some p) : Picture.Sized p := by
  obtain ⟨-, h⟩ := Option.ite_none_left_eq_some.mp h
  obtain ⟨start, -, h⟩ := Option.bind_eq_some_iff.mp h
  obtain ⟨size, -, h⟩ := Option.bind_eq_some_iff.mp h
  obtain ⟨width, -, h⟩ := Option.bind_eq_some_iff.mp h
  obtain ⟨height, -, h⟩ := Option.bind_eq_some_iff.mp h
  obtain ⟨planes, -, h⟩ := Option.bind_eq_some_iff.mp h
  obtain ⟨depth, -, h⟩ := Option.bind_eq_some_iff.mp h
  obtain ⟨compression, -, h⟩ := Option.bind_eq_some_iff.mp h
  obtain ⟨_, -, h⟩ := Option.bind_eq_some_iff.mp h
  obtain ⟨-, h⟩ := Option.ite_none_left_eq_some.mp h
  obtain ⟨-, h⟩ := Option.ite_none_left_eq_some.mp h
  obtain ⟨bounds, h⟩ := Option.ite_none_left_eq_some.mp h
  obtain ⟨data, read, h⟩ := Option.bind_eq_some_iff.mp h
  cases h
  have limited : limit < 0x100000000 := by decide
  obtain ⟨lengths, count⟩ := length_rows (Bytes.length_of_slice? read) rfl
  refine ⟨by simp only; omega, by simp only; omega, ?_⟩
  have row := fun r mem =>
    Bytes.length_flatMap_chunks (by decide) (fun _ => length_pixel) (lengths r mem)
  have total {n : Nat} (h : width.natAbs * n = width.natAbs * height.natAbs) :
      n * (4 * width.natAbs) = 4 * width.natAbs * height.natAbs := by
    rw [Nat.mul_comm, Nat.mul_assoc, h, Nat.mul_assoc]
  simp only
  split
  · exact (length_flatMap_rows row).trans (total count)
  · refine (length_flatMap_rows fun r mem => row r (List.mem_reverse.mp mem)).trans (total ?_)
    rw [List.length_reverse]
    exact count

end Bitmap

/-- **A picture has four bytes a pixel**, whatever format it was decoded from. -/
theorem Picture.decode_sized (h : decode bytes = .ok p) : Sized p := by
  unfold decode at h
  split at h
  · cases h
  · rename_i format _
    simp only at h
    split at h
    · rename_i read
      cases h
      cases format with
      | png => exact Png.sized read
      | netpbm => exact Netpbm.sized read
      | bitmap => exact Bitmap.sized read
      | unread => cases read
    · cases h

end DisplayEnv
