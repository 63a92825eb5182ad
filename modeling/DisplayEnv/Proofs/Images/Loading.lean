import DisplayEnv.Proofs.Display.Recovery
import DisplayEnv.Proofs.Images.Buffers
import DisplayEnv.Proofs.Images.Pixels
import Mathlib.Logic.Relation

/-!
# Loading an image does not depend on how its bytes arrive

A source delivers its bytes in pieces, is interrupted between them, and ends with an end or with a
failure. Of all that, loading keeps the first failure before the end, if there is one, and the bytes
before the end otherwise. So a piece may come in two, and an interruption anywhere, and the image is
the same (`Recut`).

All that is asked of what decodes the bytes is to be a function of them; a setting may bring any
`Decoder`. The pixels it gives are checked, and one with four bytes for each pixel, as
`Picture.decode`, always passes.

* `readToEnd_snd`, `readToEnd_fst`: what reading keeps of the deliveries.
* `Recut.kept`, `kept_of_recut`: it is the same in other pieces.
* `Picture.ofBytesBy_eq`: pixels with four bytes each pass the check that is made of them.
* `load_by_content`: loading.
-/

namespace DisplayEnv

variable {τ : Type} {ds ds' : List Delivery}

/-! ## Deliveries -/

namespace Delivery

/-- No bytes: the end of them. -/
def isEnd : Delivery → Bool
  | .bytes [] => true
  | _ => false

def chunk : Delivery → List UInt8
  | .bytes chunk => chunk
  | _ => []

def failure? : Delivery → Option FileError
  | .failed cause => some cause
  | _ => none

end Delivery

/-- The deliveries before the first end. -/
def beforeEnd (ds : List Delivery) : List Delivery := ds.takeWhile (!·.isEnd)

/-- The bytes before the first end, put together. -/
def content (ds : List Delivery) : List UInt8 := (beforeEnd ds).flatMap Delivery.chunk

/-- The first failure before the first end. -/
def firstFailure? (ds : List Delivery) : Option FileError :=
  (beforeEnd ds).findSome? Delivery.failure?

/-- Why a source cannot be read, if it cannot: it did not open, or failed before the first end. -/
def refusal? : Except FileError (List Delivery) → Option FileError
  | .error cause => some cause
  | .ok ds => firstFailure? ds

/-- The same deliveries but for one piece that came in two, or one interruption more. -/
inductive Recut : List Delivery → List Delivery → Prop
  | cut (front back : List Delivery) {a b : List UInt8} (ha : a ≠ []) (hb : b ≠ []) :
      Recut (front ++ .bytes (a ++ b) :: back) (front ++ .bytes a :: .bytes b :: back)
  | interrupted (front back : List Delivery) :
      Recut (front ++ back) (front ++ .interrupted :: back)

theorem readToEnd_snd (ds : List Delivery) : (readToEnd ds).2 = firstFailure? ds := by
  fun_induction readToEnd ds
  case case3 b bs rest ih => exact ih
  case case4 rest ih => exact ih
  all_goals rfl

theorem readToEnd_fst (h : firstFailure? ds = none) : (readToEnd ds).1 = content ds := by
  fun_induction readToEnd ds
  case case3 b bs rest ih => exact congrArg (b :: bs ++ ·) (ih h)
  case case4 rest ih => exact ih h
  case case5 cause rest => cases h
  all_goals rfl

theorem content_cons (d : Delivery) (ds : List Delivery) :
    content (d :: ds) = if d.isEnd then [] else d.chunk ++ content ds := by
  unfold content beforeEnd
  cases h : d.isEnd <;> simp [h]

theorem firstFailure?_cons (d : Delivery) (ds : List Delivery) :
    firstFailure? (d :: ds) = if d.isEnd then none else d.failure?.or (firstFailure? ds) := by
  unfold firstFailure? beforeEnd
  cases h : d.isEnd <;> cases h' : d.failure? <;> simp [h, h']

theorem Delivery.isEnd_bytes {chunk : List UInt8} (h : chunk ≠ []) :
    (Delivery.bytes chunk).isEnd = false := by
  cases chunk with
  | nil => exact absurd rfl h
  | cons b bs => rfl

/-- **Other pieces of the same bytes** come to the same failure and the same content. -/
theorem Recut.kept (h : Recut ds ds') :
    firstFailure? ds' = firstFailure? ds ∧ content ds' = content ds := by
  -- what stands in front is the same in both
  have behind (front : List Delivery) {back back' : List Delivery}
      (same : firstFailure? back' = firstFailure? back ∧ content back' = content back) :
      firstFailure? (front ++ back') = firstFailure? (front ++ back) ∧
        content (front ++ back') = content (front ++ back) := by
    induction front with
    | nil => exact same
    | cons d front ih =>
      obtain ⟨failure, bytes⟩ := ih
      simp only [List.cons_append, firstFailure?_cons, content_cons, failure, bytes, and_self]
  cases h with
  | cut front back ha hb =>
    refine behind front ?_
    simp [firstFailure?_cons, content_cons, Delivery.isEnd_bytes, Delivery.failure?,
      Delivery.chunk, ha, hb]
  | interrupted front back =>
    refine behind front ?_
    simp [firstFailure?_cons, content_cons, Delivery.isEnd, Delivery.failure?, Delivery.chunk]

theorem kept_of_recut (h : Relation.EqvGen Recut ds ds') :
    firstFailure? ds' = firstFailure? ds ∧ content ds' = content ds := by
  induction h with
  | rel _ _ step => exact step.kept
  | refl _ => exact ⟨rfl, rfl⟩
  | symm _ _ _ ih => exact ⟨ih.1.symm, ih.2.symm⟩
  | trans _ _ _ _ _ ih ih' => exact ⟨ih'.1.trans ih.1, ih'.2.trans ih.2⟩

/-! ## Decoders -/

/-- Its pictures have four bytes a pixel. -/
def Decoder.Sized (decoder : Decoder) : Prop := ∀ bytes p, decoder bytes = .ok p → Picture.Sized p

variable {decoder : Decoder} {uri : String} {bytes : List UInt8} {picture : Picture}
  {e : ResourceError} {opening : Except FileError (List Delivery)}

namespace Picture

/-- What an image comes to whose bytes could be read: what the decoder says, if the pixels can be
counted in 64 bits. -/
def ofContent (decoder : Decoder) (uri : String) (bytes : List UInt8) :
    Except Fault (Except ResourceError Picture) :=
  match decoder bytes with
  | .error e => .ok (.error (.decode uri e))
  | .ok (width, height, rgba) =>
    if rgba.length < 0x10000000000000000 then
      .ok (.ok ⟨UInt32.ofNat width, UInt32.ofNat height, rgba⟩)
    else .error (.overflow .mul)

/-- The check of the pixels never refuses what has four bytes a pixel. -/
theorem ofBytesBy_eq (sized : decoder.Sized) (uri : String) (bytes : List UInt8) :
    ofBytesBy decoder uri bytes = ofContent decoder uri bytes := by
  unfold ofBytesBy ofContent
  match decoded : decoder bytes with
  | .error e => rfl
  | .ok (width, height, rgba) =>
    obtain ⟨wide, high, length⟩ := sized bytes _ decoded
    have full : rgba.length = 4 * (UInt32.ofNat width).toNat * (UInt32.ofNat height).toNat := by
      rw [UInt32.toNat_ofNat_of_lt' wide, UInt32.toNat_ofNat_of_lt' high]
      exact length
    obtain ⟨made, -, fits⟩ | ⟨-, short, -⟩ | ⟨made, large⟩ :=
      make_cases (.ofNat width) (.ofNat height) rgba
    · simp only [made, if_pos fits]
      rfl
    · exact absurd full short
    · simp only [made, if_neg (Nat.not_lt.mpr (full ▸ large))]
      rfl

/-- What was read can fail in decoding, and in the check of what was decoded. -/
theorem ofBytesBy_error (h : ofBytesBy decoder uri bytes = .ok (.error e)) :
    (∀ uri, e ≠ .noSource uri) ∧ ∀ uri cause, e ≠ .read uri cause := by
  unfold ofBytesBy at h
  match decoded : decoder bytes with
  | .error cause =>
    simp only [decoded] at h
    cases h
    exact ⟨nofun, nofun⟩
  | .ok (width, height, rgba) =>
    simp only [decoded] at h
    obtain ⟨made, -⟩ | ⟨⟨_, made⟩, -⟩ | ⟨made, -⟩ :=
      make_cases (.ofNat width) (.ofNat height) rgba
    all_goals
      rw [made] at h
      cases h
    exact ⟨nofun, nofun⟩

/-- The pixels of a picture were checked, whatever the decoder gave. -/
theorem ofBytesBy_pixels (h : ofBytesBy decoder uri bytes = .ok (.ok picture)) :
    picture.rgba.length = 4 * picture.width.toNat * picture.height.toNat := by
  unfold ofBytesBy at h
  match decoded : decoder bytes with
  | .error e =>
    simp only [decoded] at h
    cases h
  | .ok (width, height, rgba) =>
    simp only [decoded] at h
    obtain ⟨made, length, -⟩ | ⟨⟨_, made⟩, -⟩ | ⟨made, -⟩ :=
      make_cases (.ofNat width) (.ofNat height) rgba
    all_goals
      rw [made] at h
      cases h
    exact length

theorem ofOpeningBy_refused (decoder : Decoder) (uri : String) {cause : FileError}
    (h : refusal? opening = some cause) :
    ofOpeningBy decoder uri opening = .ok (.error (.read uri cause)) := by
  cases opening with
  | error e =>
    cases h
    rfl
  | ok ds =>
    have read : readToEnd ds = ((readToEnd ds).1, some cause) :=
      Prod.ext rfl ((readToEnd_snd ds).trans h)
    unfold ofOpeningBy
    simp only
    rw [read]

theorem ofOpeningBy_content (decoder : Decoder) (uri : String) (h : firstFailure? ds = none) :
    ofOpeningBy decoder uri (.ok ds) = ofBytesBy decoder uri (content ds) := by
  have read : readToEnd ds = (content ds, none) :=
    Prod.ext (readToEnd_fst h) ((readToEnd_snd ds).trans h)
  unfold ofOpeningBy
  simp only [read]

/-- An opening is refused, or its content counts. -/
theorem ofOpeningBy_cases (decoder : Decoder) (uri : String)
    (opening : Except FileError (List Delivery)) :
    (∃ cause, refusal? opening = some cause ∧
        ofOpeningBy decoder uri opening = .ok (.error (.read uri cause))) ∨
      ∃ bytes, refusal? opening = none ∧
        ofOpeningBy decoder uri opening = ofBytesBy decoder uri bytes := by
  match refused : refusal? opening with
  | some cause => exact .inl ⟨cause, rfl, ofOpeningBy_refused decoder uri refused⟩
  | none =>
    cases opening with
    | error _ => cases refused
    | ok ds => exact .inr ⟨content ds, rfl, ofOpeningBy_content decoder uri refused⟩

theorem ofOpeningBy_recut (decoder : Decoder) (uri : String) (h : Relation.EqvGen Recut ds ds') :
    ofOpeningBy decoder uri (.ok ds') = ofOpeningBy decoder uri (.ok ds) := by
  obtain ⟨failure, bytes⟩ := kept_of_recut h
  match failed : firstFailure? ds with
  | some cause =>
    have refused : refusal? (.ok ds) = some cause := failed
    have refused' : refusal? (.ok ds') = some cause := failure.trans failed
    rw [ofOpeningBy_refused decoder uri refused, ofOpeningBy_refused decoder uri refused']
  | none =>
    rw [ofOpeningBy_content decoder uri failed,
      ofOpeningBy_content decoder uri (failure.trans failed), bytes]

end Picture

/-! ## Loading -/

/-- How an image is loaded: the outcome is told by what its source keeps of its deliveries. -/
structure LoadsByContent {σ : Type} (S : Setting σ τ) (i : Image) (s : σ) : Prop where
  /-- Without a source, and only without one, there is none. -/
  noSource : ∀ uri, (S.loadPicture i s).1 = .done (.error (.noSource uri)) ↔
    i.source = none ∧ uri = i.uri
  /-- It cannot be read when the source does not open, or fails before the first end; whatever
  bytes came before. -/
  read : ∀ source opening s', i.source = some source →
    S.openSource source s = (.done opening, s') → ∀ uri cause,
      (S.loadPicture i s).1 = .done (.error (.read uri cause)) ↔
        uri = i.uri ∧ refusal? opening = some cause
  /-- Otherwise it comes to what the content comes to. -/
  content : ∀ source ds s', i.source = some source →
    S.openSource source s = (.done (.ok ds), s') → firstFailure? ds = none →
      S.loadPicture i s =
        Act.ofExcept (Picture.ofBytesBy S.decoder i.uri (DisplayEnv.content ds)) s'
  /-- Other pieces and other interruptions make no difference, for any image of the same uri in any
  setting with the same decoder. -/
  recut : ∀ source ds s', i.source = some source →
    S.openSource source s = (.done (.ok ds), s') →
      ∀ (ρ : Type) (S' : Setting ρ τ) (i' : Image) (t : ρ) source' ds' t',
        S'.decoder = S.decoder → i'.uri = i.uri → i'.source = some source' →
          S'.openSource source' t = (.done (.ok ds'), t') →
          Relation.EqvGen Recut ds ds' →
            (S'.loadPicture i' t).1 = (S.loadPicture i s).1
  /-- A picture has four bytes a pixel. -/
  pixels : ∀ picture, (S.loadPicture i s).1 = .done (.ok picture) →
    picture.rgba.length = 4 * picture.width.toNat * picture.height.toNat

variable {σ : Type} {S : Setting σ τ} {i : Image} {s s' : σ} {source : Source}

theorem Act.ofExcept_eq_done {α : Type} {r : Except Fault α} {a : α} :
    (Act.ofExcept r s).1 = .done a ↔ r = .ok a := by
  cases r with
  | ok b => exact ⟨fun h => congrArg Except.ok (Outcome.done.inj h), fun h => by cases h; rfl⟩
  | error c => exact ⟨nofun, nofun⟩

theorem Act.ofExcept_fst {α ρ : Type} (r : Except Fault α) (s : σ) (t : ρ) :
    (Act.ofExcept r t).1 = (Act.ofExcept r s).1 := by
  cases r <;> rfl

theorem Setting.loadPicture_none (none : i.source = none) :
    S.loadPicture i s = (.done (.error (.noSource i.uri)), s) := by
  unfold Setting.loadPicture
  simp only [none]
  rfl

/-- Behind the opening of its source, an image is loaded without the state. -/
theorem Setting.loadPicture_of (found : i.source = some source)
    (opened : S.openSource source s = (.done opening, s')) :
    S.loadPicture i s = Act.ofExcept (Picture.ofOpeningBy S.decoder i.uri opening) s' := by
  unfold Setting.loadPicture
  simp only [found, Act.bind_apply, opened]

/-- An image with a source is loaded, if at all, unless it cannot be read, from some bytes. -/
theorem Setting.loadPicture_done (found : i.source = some source)
    {r : Except ResourceError Picture} (h : (S.loadPicture i s).1 = .done r) :
    (∃ cause, r = .error (.read i.uri cause)) ∨
      ∃ bytes, Picture.ofBytesBy S.decoder i.uri bytes = .ok r := by
  match opened : S.openSource source s with
  | (.done opening, s') =>
    rw [loadPicture_of found opened, Act.ofExcept_eq_done] at h
    obtain ⟨cause, -, read⟩ | ⟨bytes, -, read⟩ := Picture.ofOpeningBy_cases S.decoder i.uri opening
    · exact .inl ⟨cause, (Except.ok.inj (read.symm.trans h)).symm⟩
    · exact .inr ⟨bytes, read.symm.trans h⟩
  | (.fault _, _) | (.stalled, _) =>
    unfold Setting.loadPicture at h
    simp only [found, Act.bind_apply, opened] at h
    cases h

/-- **Loading an image does not depend on how its bytes arrive**, in any setting. Whatever decodes
them, what comes out is checked; a decoder whose pictures have four bytes a pixel passes that check,
and the decoder of this library is one. -/
theorem load_by_content (S : Setting σ τ) (i : Image) (s : σ) :
    LoadsByContent S i s ∧
      (S.decoder.Sized → ∀ uri bytes,
        Picture.ofBytesBy S.decoder uri bytes = Picture.ofContent S.decoder uri bytes) ∧
      Decoder.Sized Picture.decode := by
  refine ⟨⟨fun uri => ⟨fun h => ?_, ?_⟩, fun source opening s' found opened uri cause => ?_,
    fun source ds s' found opened sound => ?_, ?_, fun picture loaded => ?_⟩,
    Picture.ofBytesBy_eq, fun _ _ => Picture.decode_sized⟩
  · -- an image with a source is not without one
    cases found : i.source with
    | none =>
      rw [Setting.loadPicture_none found] at h
      cases h
      exact ⟨rfl, rfl⟩
    | some source =>
      obtain ⟨_, same⟩ | ⟨bytes, made⟩ := Setting.loadPicture_done found h
      · cases same
      · exact absurd rfl ((Picture.ofBytesBy_error made).1 uri)
  · rintro ⟨none, rfl⟩
    rw [Setting.loadPicture_none none]
  · rw [Setting.loadPicture_of found opened, Act.ofExcept_eq_done]
    constructor
    · intro made
      obtain ⟨_, refused, read⟩ | ⟨bytes, -, read⟩ :=
        Picture.ofOpeningBy_cases S.decoder i.uri opening
      · cases read.symm.trans made
        exact ⟨rfl, refused⟩
      · exact absurd rfl ((Picture.ofBytesBy_error (read.symm.trans made)).2 uri cause)
    · rintro ⟨rfl, refused⟩
      exact Picture.ofOpeningBy_refused S.decoder _ refused
  · rw [Setting.loadPicture_of found opened, Picture.ofOpeningBy_content S.decoder _ sound]
  · intro source ds s' found opened ρ S' i' t source' ds' t' decoder uri found' opened' recut
    rw [Setting.loadPicture_of found opened, Setting.loadPicture_of found' opened', decoder, uri,
      Picture.ofOpeningBy_recut S.decoder i.uri recut, Act.ofExcept_fst]
  · cases found : i.source with
    | none =>
      rw [Setting.loadPicture_none found] at loaded
      cases loaded
    | some source =>
      obtain ⟨_, same⟩ | ⟨bytes, made⟩ := Setting.loadPicture_done found loaded
      · cases same
      · exact Picture.ofBytesBy_pixels made

/-- The bytes of `dot` in two pieces, with interruptions. -/
def dotted : List Delivery :=
  [.interrupted, .bytes [80, 53, 32, 49], .interrupted, .bytes [32, 49, 32, 50, 53, 53, 10, 7],
    .interrupted]

theorem load_by_content_dot :
    let S : Setting (Display Nat) Nat := .plain .empty fun _ => pure (.ok ())
    let d : Display Nat := .new 0 (.new .standard)
    let pieces : Image := ⟨"logo", some (.stream none dotted)⟩
    (S.loadPicture dot d).1 = .done (.ok ⟨1, 1, [7, 7, 7, 255]⟩) ∧
      (S.loadPicture pieces d).1 = .done (.ok ⟨1, 1, [7, 7, 7, 255]⟩) := by
  intro S d pieces
  obtain ⟨loads, -⟩ := load_by_content S dot d
  have recut : Relation.EqvGen Recut
      [.bytes [80, 53, 32, 49, 32, 49, 32, 50, 53, 53, 10, 7]] dotted := by
    refine .trans _ _ _ (.rel _ _ (.cut [] [] (a := [80, 53, 32, 49]) nofun nofun)) ?_
    refine .trans _ _ _ (.rel _ _ (.interrupted [] _)) ?_
    refine .trans _ _ _ (.rel _ _ (.interrupted [.interrupted, .bytes [80, 53, 32, 49]] _)) ?_
    exact .rel _ _ (.interrupted [.interrupted, .bytes _, .interrupted, .bytes _] [])
  have first : (S.loadPicture dot d).1 = .done (.ok ⟨1, 1, [7, 7, 7, 255]⟩) := by decide +kernel
  exact ⟨first, (loads.recut _ _ _ rfl rfl _ S pieces d _ _ _ rfl rfl rfl rfl recut).trans first⟩

end DisplayEnv
