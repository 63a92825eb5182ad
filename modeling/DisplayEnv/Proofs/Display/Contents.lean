import Mathlib.Algebra.Order.Floor.Semiring
import Mathlib.Data.Rat.Floor
import DisplayEnv.Proofs.Descriptors
import DisplayEnv.Proofs.Display.Keeping
import DisplayEnv.Proofs.Display.Recovery

/-!
# What the handles of a display are made from

A handle that is kept for a descriptor carries the data of that descriptor: a color its three
channels, whatever its alpha, a font its four fields and its height in whole pixels, an image the
size of the picture that was decoded when its entry was made. The descriptor of an image is only its
uri, so the picture is that of the call that made the entry, not of the call that finds it.

* `Handle.Carries` says what is carried, `History.carries` that every kept handle carries it.
* `Quiet.delivered`: the picture of a new image comes from the source of its descriptor.
-/

namespace DisplayEnv

variable {σ τ : Type}

/-- The source that was opened answered, and the handle has the size of the picture that the decoder
makes of what it delivered. -/
def Opening.Gives (opening : Opening) (uri : String) (h : NativeImage) : Prop :=
  ∃ r picture, opening.answer = .ok r ∧
    Picture.ofOpeningBy opening.decoder uri r = .ok (.ok picture) ∧
    h.width = picture.width ∧ h.height = picture.height

/-- The moment is a call for an image of this uri that found none, and made this handle from what its
source gave. A moment does not say what its call found around the display; whatever that was, it
gives this handle. -/
def Moment.Creates (m : Moment τ) (uri : String) (h : NativeImage) : Prop :=
  m.before.handle? (.shelved .images uri) = none ∧
    m.after.handle? (.shelved .images uri) = some (.shelved .images h) ∧
    (∃ i, (m.call = .resolveImage i ∨ m.call = .image i) ∧ i.uri = uri ∧ i.source.isSome) ∧
    (∃ opening, m = .of opening m.call m.before) ∧
    ∀ opening, m = .of opening m.call m.before → opening.Gives uri h

/-- **A handle carries the data of its descriptor**, at so many dots per inch; the data of an image
is that of the call of the history that made its entry. -/
def Handle.Carries (dpi : UInt32) (t : List (Moment τ)) : Descriptor → Handle → Prop
  | .shelved .colors c, .shelved .colors h =>
    h.r.toNat = c.argb.toNat / 0x10000 % 0x100 ∧ h.g.toNat = c.argb.toNat / 0x100 % 0x100 ∧
      h.b.toNat = c.argb.toNat % 0x100
  | .shelved .fonts f, .shelved .fonts h =>
    h.name = f.name ∧ h.size = f.size ∧ h.bold = f.bold ∧ h.italic = f.italic ∧
      h.height = ⌈(f.size.toNat * dpi.toNat : ℚ) / 72⌉₊
  | .shelved .images uri, .shelved .images h => ∃ m ∈ t, m.Creates uri h
  | .scratch, .gc _ => True
  | _, _ => False

variable {d d' : Display τ} {c : Call τ} {opening : Opening} {t : List (Moment τ)}
  {config : HeadlessConfig}

/-! ## What the native constructors make -/

/-- Dividing in whole numbers after adding 71 rounds a division by 72 up. -/
theorem ceil_div_72 (n : ℕ) : (n + 71) / 72 = ⌈(n : ℚ) / 72⌉₊ := by
  apply Nat.le_antisymm
  · have above : (n : ℚ) ≤ ⌈(n : ℚ) / 72⌉₊ * 72 := (div_le_iff₀ (by norm_num)).mp (Nat.le_ceil _)
    have above : n ≤ ⌈(n : ℚ) / 72⌉₊ * 72 := by exact_mod_cast above
    omega
  · have below : n ≤ (n + 71) / 72 * 72 := by omega
    refine Nat.ceil_le.mpr ((div_le_iff₀ (by norm_num)).mpr ?_)
    exact_mod_cast below

namespace Headless

variable {b b' : Headless τ}

/-- What is made behind an allocation is made from its number. -/
theorem numbered_of_bind {H : Type} {f : Nat × Headless τ → Except PlatformError (H × Headless τ)}
    {r : H × Headless τ} (made : b.allocate >>= f = .ok r) : ∃ p, f p = .ok r := by
  cases ha : b.allocate with
  | error e =>
    rw [ha] at made
    cases made
  | ok p =>
    rw [ha] at made
    exact ⟨p, made⟩

theorem createColor_data {red green blue : UInt8} {h : NativeColor}
    (made : b.createColor red green blue = .ok (h, b')) :
    h.r = red ∧ h.g = green ∧ h.b = blue := by
  obtain ⟨p, made⟩ := numbered_of_bind made
  cases made
  exact ⟨rfl, rfl, rfl⟩

theorem createFont_data {f : Font} {h : NativeFont} (made : b.createFont f = .ok (h, b')) :
    h.name = f.name ∧ h.size = f.size ∧ h.bold = f.bold ∧ h.italic = f.italic ∧
      h.height = (f.size.toNat * b.config.dpi.toNat + 71) / 72 := by
  unfold createFont at made
  split at made
  · cases made
  · split at made
    · cases made
    · rename_i height pixels
      have rounded : height = (f.size.toNat * b.config.dpi.toNat + 71) / 72 := by
        unfold pixels? at pixels
        simp only at pixels
        split at pixels
        · exact (Option.some.inj pixels).symm
        · cases pixels
      obtain ⟨p, made⟩ := numbered_of_bind made
      cases made
      exact ⟨rfl, rfl, rfl, rfl, rounded⟩

theorem createImage_data {p : Picture} {h : NativeImage} (made : b.createImage p = .ok (h, b')) :
    p.width ≠ 0 ∧ p.height ≠ 0 ∧ h.width = p.width ∧ h.height = p.height := by
  unfold createImage at made
  split at made
  · cases made
  · rename_i sized
    obtain ⟨q, made⟩ := numbered_of_bind made
    cases made
    exact ⟨fun e => sized (.inl e), fun e => sized (.inr e), rfl, rfl⟩

end Headless

/-- An image is made from the picture that its source delivered. -/
theorem Making.image_eq_ok {i : Image} {b b' : Headless τ} {h : NativeImage}
    (made : Making.image opening i b = .ok (.ok (h, b'))) :
    ∃ source r picture, i.source = some source ∧ opening.answer = .ok r ∧
      Picture.ofOpeningBy opening.decoder i.uri r = .ok (.ok picture) ∧
      b.createImage picture = .ok (h, b') := by
  unfold image at made
  split at made
  · cases made
  · rename_i source hs
    split at made
    · cases made
    · rename_i r answer
      split at made
      · cases made
      · cases made
      · rename_i picture decoded
        exact ⟨source, r, picture, hs, answer, decoded, Making.native_eq_ok.mp made⟩

/-! ## Every kept handle -/

/-- The configuration of a backend never changes. -/
theorem Display.after_config (d : Display τ) (opening : Opening) (c : Call τ) :
    (d.after opening c).backend.config = d.backend.config := by
  by_cases hc : c.OnBackend
  · cases c with
    | dispatch _ =>
      show d.dispatched.backend.config = _
      unfold dispatched Headless.next
      split <;> cases d.backend.drain.queue <;> rfl
    | sleep =>
      show d.backend.sleep.config = _
      unfold Headless.sleep
      split
      · split <;> rfl
      · rfl
    | createWindow | destroyWindow _ | post _ | send _ | pendingEvents => rfl
    | _ => exact hc.elim
  · refine d.after_apart (f := Headless.config) ⟨fun b b' n h => ?_, fun _ _ => rfl, fun b => ?_⟩ hc
    · obtain ⟨-, -, rfl⟩ := Headless.allocate_eq h
      rfl
    · unfold Headless.close
      split <;> rfl

theorem Handle.Carries.mono {dpi : UInt32} {a : Descriptor} {h : Handle}
    {t' : List (Moment τ)} (carries : h.Carries dpi t a) (sub : t ⊆ t') : h.Carries dpi t' a := by
  cases a with
  | scratch => cases h <;> exact carries
  | shelved sh k =>
    cases h with
    | gc h => cases sh <;> exact carries
    | shelved sh' h =>
      cases sh <;> cases sh'
      case images.images =>
        obtain ⟨m, hm, creates⟩ := carries
        exact ⟨m, sub hm, creates⟩
      all_goals exact carries

/-- An image is made by a call that asks for it, from what its source gave. -/
theorem Display.Begets.gives {uri : String} {h : NativeImage}
    (begets : d.Begets opening c (.shelved .images uri) (.shelved .images h)) :
    (∃ i, (c = .resolveImage i ∨ c = .image i) ∧ i.uri = uri ∧ i.source.isSome) ∧
      opening.Gives uri h := by
  cases begets with
  | image asked made =>
    obtain ⟨source, r, picture, hs, answer, decoded, created⟩ := Making.image_eq_ok made
    obtain ⟨-, -, width, height⟩ := Headless.createImage_data created
    exact ⟨⟨_, asked, rfl, by rw [hs]; rfl⟩, r, picture, answer, decoded, width, height⟩

/-- A call after which there is an image that was missing has created it. -/
theorem Moment.creates {uri : String} {h : NativeImage} (lent : d.lent = [])
    (lacked : d.handle? (.shelved .images uri) = none)
    (kept : (Moment.of opening c d).after.handle? (.shelved .images uri) =
      some (.shelved .images h)) : (Moment.of opening c d).Creates uri h := by
  have begets (o : Opening) (same : Moment.of opening c d = .of o c d) :
      d.Begets o c (.shelved .images uri) (.shelved .images h) := by
    rw [same, Moment.of_after o lent] at kept
    rcases (d.turns_after o c).old_or_new kept with old | ⟨-, -, begets⟩
    · cases lacked.symm.trans old
    · exact begets
  exact ⟨lacked, kept, (begets opening rfl).gives.1, ⟨opening, rfl⟩,
    fun o same => (begets o same).gives.2⟩

/-- What a call makes for a descriptor that had no handle carries the data of the descriptor. -/
theorem Display.Begets.carries {a : Descriptor} {h : Handle} (begets : d.Begets opening c a h)
    (lent : d.lent = []) (lacked : d.handle? a = none)
    (kept : (Moment.of opening c d).after.handle? a = some h) :
    h.Carries d.backend.config.dpi (t ++ [.of opening c d]) a := by
  cases begets with
  | @color c h b made =>
    obtain ⟨red, green, blue⟩ := Headless.createColor_data made
    show h.r.toNat = _ ∧ h.g.toNat = _ ∧ h.b.toNat = _
    rw [red, green, blue]
    exact c.toNat_channels.2
  | font _ made =>
    obtain ⟨name, size, bold, italic, height⟩ := Headless.createFont_data made
    refine ⟨name, size, bold, italic, height.trans ?_⟩
    rw [ceil_div_72, Nat.cast_mul]
  | image _ _ =>
    exact ⟨_, List.mem_append_right t List.mem_cons_self, Moment.creates lent lacked kept⟩
  | gc => trivial

/-- **Every kept handle carries the data of its descriptor.** -/
theorem History.carries (h : History (fun _ => True) config t d) {a : Descriptor} {x : Handle}
    (kept : d.handle? a = some x) : x.Carries config.dpi t a := by
  have all : d.backend.config = config ∧
      ∀ a x, d.handle? a = some x → x.Carries config.dpi t a := by
    refine h.invariant (P := fun t d => d.backend.config = config ∧
      ∀ a x, d.handle? a = some x → x.Carries config.dpi t a) (fun id => ⟨rfl, ?_⟩) ?_
    · intro a x kept
      cases a with
      | scratch => cases kept
      | shelved sh k => cases sh <;> cases kept
    · rintro t d c opening history - ⟨rfl, carries⟩ after
      refine ⟨d.after_config opening c, fun a x kept => ?_⟩
      rcases (d.turns_after opening c).old_or_new kept with old | ⟨lacked, -, begets⟩
      · exact (carries a x old).mono (List.subset_append_left t _)
      · exact begets.carries history.orderly.lent lacked (after ▸ kept)
  exact all.2 a x kept

/-! ## The source of a new image -/

/-- A lookup that found nothing and answers a handle has made it. -/
theorem Display.made_of_resolve {sh : Shelf} {k : sh.Key} {make : Making τ sh.Handle}
    {h : sh.Handle} (answer : (d.resolve sh k make).1 = .done (.ok h)) (lacks : d.Lacks sh k) :
    ∃ b, make d.backend = .ok (.ok (h, b)) := by
  have outcome := d.resolves sh k make
  generalize d.resolve sh k make = r at outcome answer
  cases outcome with
  | found _ found => exact absurd (lacks.symm.trans found) nofun
  | made _ _ made =>
    cases answer
    exact ⟨_, made⟩
  | ended _ | refused _ _ _ | gaveUp _ _ _ => cases answer

/-- **The picture of a new image comes from its source.** -/
theorem Setting.Quiet.delivered {S : Setting σ τ} (hS : S.Quiet) {s : σ} {i : Image}
    {h : NativeImage} (lent : (S.display.get s).lent = [])
    (answer : (S.resolveImage i s).1 = .done (.ok h))
    (lacks : (S.display.get s).Lacks .images i.uri) :
    ∃ picture, S.Delivers i picture s ∧ h.width = picture.width ∧ h.height = picture.height := by
  -- the source is opened at most once, and answers as it does in the state where that happens
  obtain ⟨told, load, same⟩ : ∃ told : SourceAnswer,
      S.display.Mirrors (opened S i s) (S.loadPicture i)
        ((Setting.alone ⟨S.decoder, told⟩).loadPicture i) ∧
      ∀ source, i.source = some source → (S.openSource source (opened S i s)).1 =
        (Act.ofExcept told (S.display.get (opened S i s))).1 := by
    cases hi : i.source with
    | none => exact ⟨.ok (.ok []), loadPicture_of (by simp [hi]), nofun⟩
    | some source =>
      obtain ⟨told, mirrors⟩ := hS.openSource source (opened S i s)
      refine ⟨told, loadPicture_of fun source' hs => ?_, fun source' hs => ?_⟩
      · obtain rfl := Option.some.inj (hi.symm.trans hs)
        exact mirrors
      · obtain rfl := Option.some.inj hs
        exact congrArg Prod.fst mirrors
  have alone : (S.resolveImage i s).1 = ((Setting.alone ⟨S.decoder, told⟩).resolveImage i
    (S.display.get s)).1 := congrArg Prod.fst (hS.resolveImage_of load)
  rw [alone_resolveImage lent] at alone
  obtain ⟨b, made⟩ := Display.made_of_resolve (alone.symm.trans answer) lacks
  obtain ⟨source, r, picture, hs, rfl, decoded, created⟩ := Making.image_eq_ok made
  obtain ⟨wide, high, width, height⟩ := Headless.createImage_data created
  exact ⟨picture, ⟨wide, high, source, r, hs, same source hs, decoded⟩, width, height⟩

end DisplayEnv
