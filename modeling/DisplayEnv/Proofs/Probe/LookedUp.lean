import DisplayEnv.Proofs.Cache.Keyed
import DisplayEnv.Proofs.Events.Unseen
import DisplayEnv.Proofs.Monitors.Layouts
import DisplayEnv.Proofs.Probe.Steps

/-!
# What the probe looks up

The probe asks for the monitors, the size of a sample in three fonts and two colors. None of this
can fail on a fresh headless display that has a monitor: the fonts are small enough for every
resolution, so that the heights and the products fit. What is printed of it depends on the settings
of the headless backend alone.

* `Going`: the display meanwhile, with the fonts and colors that were looked up.
* `gives_primaryMonitor`, `gives_monitors`, `gives_showFonts`, `gives_resolveColor`,
  `gives_showConstants`: each part, with its lines.
-/

namespace DisplayEnv.Probe

variable {s : Stand} {P : Display Task → Prop}

/-! ## The display while the probe looks around -/

/-- These keys were looked up in the cache, each once, and nothing else was. -/
structure Once {K H : Type} (keys : List K) (c : Cache K H) : Prop where
  entries : c.entries.map (·.1) = keys
  hits : c.hits = 0
  misses : c.misses = keys.length

theorem Once.insert {K H : Type} {keys : List K} {c : Cache K H} (h : Once keys c) (k : K)
    (handle : H) : Once (k :: keys) (c.countMiss.insert k handle) where
  entries := congrArg (k :: ·) h.entries
  hits := h.hits
  misses := congrArg (· + 1) h.misses

theorem Once.absent {K H : Type} [DecidableEq K] {keys : List K} {c : Cache K H} (h : Once keys c)
    {k : K} (new : k ∉ keys) : c.find? k = none :=
  Cache.find?_eq_none_iff.mpr (h.entries ▸ new)

/-- A live display of a headless backend with these settings and these waiting events that has
looked up these fonts and colors, and no image. -/
structure Going (h : HeadlessConfig) (line : List (Event Task)) (layout : Option Layout)
    (fonts : List Font) (colors : List Color) (d : Display Task) : Prop where
  live : d.disposed = false
  lent : d.lent = []
  opened : d.backend.closed = false
  config : d.backend.config = h
  line : d.backend.pending = line
  layout : d.layout = layout
  fonts : Once fonts d.fonts
  colors : Once colors d.colors
  images : Once [] d.images

variable {h : HeadlessConfig} {line : List (Event Task)} {layout : Option Layout}
  {fonts : List Font} {colors : List Color} {d : Display Task} {l : Layout} {m : Monitor}

theorem going_new (h : HeadlessConfig) : Going h [] none [] [] (.new 1 (.new h)) where
  live := rfl
  lent := rfl
  opened := rfl
  config := rfl
  line := rfl
  layout := rfl
  fonts := ⟨rfl, rfl, rfl⟩
  colors := ⟨rfl, rfl, rfl⟩
  images := ⟨rfl, rfl, rfl⟩

/-- The height in pixels of a font. -/
def height (h : HeadlessConfig) (f : Font) : Nat := (f.size.toNat * h.dpi.toNat + 71) / 72

/-- Width and height of the sample in a font. -/
def extent (h : HeadlessConfig) (f : Font) : Nat × Nat :=
  (min (sample.length * height h f * (if f.bold then 11 else 10) / 20) 0x7fffffff, height h f)

/-- A font that the backend can make at every resolution. -/
def Modest (f : Font) : Prop := f.name ≠ "" ∧ f.size ≠ 0 ∧ f.size.toNat ≤ 12

theorem height_lt {f : Font} (hf : Modest f) (h : HeadlessConfig) : height h f < 0x80000000 := by
  have dpi := h.dpi.toNat_lt
  have product : f.size.toNat * h.dpi.toNat ≤ 12 * h.dpi.toNat := Nat.mul_le_mul_right _ hf.2.2
  unfold height
  omega

/-- An open backend gives out the next number. -/
theorem allocate_eq {b : Headless Task} (opened : b.closed = false) :
    b.allocate = .ok (b.nextId, { b with nextId := b.nextId + 1, live := b.nextId :: b.live }) :=
  if_neg (by simp [opened])

theorem native_eq {H : Type} (create : Headless Task → Except PlatformError (H × Headless Task))
    {b : Headless Task} {r : H × Headless Task} (made : create b = .ok r) :
    Making.native create b = .ok (.ok r) := by
  unfold Making.native
  rw [made]

/-- Looking up what was not looked up before has it made. -/
theorem resolve_eq (sh : Shelf) {k : sh.Key} {make : Making Task sh.Handle} {n : sh.Handle}
    {b : Headless Task} (live : d.disposed = false) (absent : (sh.part.get d).find? k = none)
    (made : make d.backend = .ok (.ok (n, b))) : d.resolve sh k make =
      (.done (.ok n), { sh.part.modify (·.countMiss.insert k n) d with backend := b }) := by
  unfold Display.resolve
  rw [if_neg (by simp [live]), absent]
  simp only [made]

/-- The native font of a descriptor is made, as high as the resolution makes it. -/
theorem createFont_eq {f : Font} (hf : Modest f) {b : Headless Task} (opened : b.closed = false)
    (config : b.config = h) : b.createFont f =
      .ok (⟨b.nextId, height h f, f.name, f.size, f.bold, f.italic⟩,
        { b with nextId := b.nextId + 1, live := b.nextId :: b.live }) := by
  have pixels : b.pixels? f.size = some (height h f) := by
    unfold Headless.pixels?
    rw [config]
    exact if_pos (height_lt hf h)
  unfold Headless.createFont
  rw [if_neg (by simp [hf.1, hf.2.1]), pixels]
  simp only [allocate_eq opened]
  rfl

/-- None of the products overflows. -/
theorem textExtent_eq {f : Font} (hf : Modest f) {n : NativeFont} (hn : n.height = height h f)
    (bold : n.bold = f.bold) : Headless.textExtent n sample.length = .ok (extent h f) := by
  have small := height_lt hf h
  have length : sample.length = 19 := rfl
  have advance : Headless.advance n = if f.bold then 11 else 10 := by
    unfold Headless.advance
    rw [bold]
  have factor : (if f.bold then 11 else 10) ≤ 11 := by split <;> decide
  unfold Headless.textExtent extent
  rw [hn, advance, length]
  generalize height h f = n at small
  generalize (if f.bold then 11 else 10) = k at factor
  have area : ¬ 0x8000000000000000 ≤ 19 * n := by omega
  have scaled : ¬ 0x8000000000000000 ≤ 19 * n * k := by
    have := Nat.mul_le_mul_left (19 * n) factor
    omega
  simp only [if_neg area, if_neg scaled]
  rfl

theorem Going.resolveFont (going : Going h line layout fonts colors d) {f : Font} (hf : Modest f)
    (new : f ∉ fonts) : ∃ n d', d.resolveFont f = (.done (.ok n), d') ∧ n.height = height h f ∧
      n.bold = f.bold ∧ Going h line layout (f :: fonts) colors d' := by
  have made := native_eq (·.createFont f) (createFont_eq hf going.opened going.config)
  exact ⟨_, _, resolve_eq .fonts going.live (going.fonts.absent new) made, rfl, rfl,
    { going with fonts := going.fonts.insert f _ }⟩

theorem Going.resolveColor (going : Going h line layout fonts colors d) {c : Color}
    (new : c ∉ colors) : ∃ n d', d.resolveColor c = (.done (.ok n), d') ∧
      Going h line layout fonts (c :: colors) d' := by
  have made : d.backend.createColor c.r c.g c.b = .ok (⟨d.backend.nextId, c.r, c.g, c.b⟩,
      { d.backend with
        nextId := d.backend.nextId + 1
        live := d.backend.nextId :: d.backend.live }) := by
    unfold Headless.createColor
    rw [allocate_eq going.opened]
    rfl
  have made := native_eq (·.createColor c.r c.g c.b) made
  exact ⟨_, _, resolve_eq .colors going.live (going.colors.absent new) made,
    { going with colors := going.colors.insert c _ }⟩

theorem Going.resolveScratch (going : Going h line layout fonts colors d) :
    ∃ gc d', d.resolveScratch = (.done (.ok gc), d') ∧ Going h line layout fonts colors d' := by
  unfold Display.resolveScratch
  rw [if_neg (by simp [going.live])]
  cases d.scratch with
  | some gc => exact ⟨gc, d, rfl, going⟩
  | none =>
    have made : d.backend.createGc = .ok (⟨d.backend.nextId⟩, { d.backend with
        nextId := d.backend.nextId + 1
        live := d.backend.nextId :: d.backend.live }) := by
      unfold Headless.createGc
      rw [allocate_eq going.opened]
      rfl
    simp only [made]
    exact ⟨_, _, rfl, { going with }⟩

/-- **A font is shown** with the size of the sample in it. -/
theorem gives_textExtent {f : Font} (going : Going h line layout fonts colors s.display)
    (hf : Modest f) (new : f ∉ fonts) :
    Gives (setting.textExtent f sample) s (.ok (extent h f)) []
      (Going h line layout (f :: fonts) colors) := by
  obtain ⟨n, d₁, font, tall, bold, going₁⟩ := going.resolveFont hf new
  obtain ⟨gc, d₂, scratch, going₂⟩ := going₁.resolveScratch
  refine gives_of_mirrors (y := (Setting.alone .nothing).textExtent f sample)
    (setting_quiet.textExtent f sample) (setting_keeps.textExtent f sample) ?_ going₂
  rw [alone_textExtent_apply going.lent, font]
  simp only [scratch, textExtent_eq hf tall bold]

theorem gives_resolveColor {c : Color} (going : Going h line layout fonts colors s.display)
    (new : c ∉ colors) : ∃ n, Gives (setting.resolveColor c) s (.ok n) []
      (Going h line layout fonts (c :: colors)) := by
  obtain ⟨n, d', run, going'⟩ := going.resolveColor new
  exact ⟨n, gives_of_mirrors (y := (Setting.alone .nothing).resolveColor c)
    (setting_quiet.resolveColor c) (setting_keeps.resolveColor c)
    ((alone_resolveColor going.lent c).trans run) going'⟩

/-! ## Monitors -/

theorem Going.enumerated (going : Going h line none fonts colors d)
    (found : Layout.ofReport h.report = .ok l) :
    Going h line (some l) fonts colors d.enumerated := by
  unfold Display.enumerated
  rw [if_neg (by simp [going.live]), going.layout, going.config]
  simp only [found]
  exact { going with layout := rfl }

theorem keeps_primaryMonitor : Act.Keeps (fun s => said s.out) setting.primaryMonitor := fun s => by
  have kept := setting_keeps.call .primaryMonitor s
  rwa [Setting.call, Act.bind_pure_snd] at kept

theorem keeps_monitors : Act.Keeps (fun s => said s.out) setting.monitors := fun s => by
  have kept := setting_keeps.call .monitors s
  rwa [Setting.call, Act.bind_pure_snd] at kept

/-- The primary monitor of the layout is found, and the layout kept. -/
theorem gives_primaryMonitor (going : Going h line none fonts colors s.display)
    (found : Layout.ofReport h.report = .ok l) (primary : l.primary? = some m) :
    Gives setting.primaryMonitor s (.ok m) [] (Going h line (some l) fonts colors) := by
  refine gives_of_mirrors (y := (Setting.alone .nothing).primaryMonitor)
    setting_quiet.primaryMonitor keeps_primaryMonitor
    (Prod.ext ?_ (alone_primaryMonitor s.display)) (going.enumerated found)
  rw [alone_primaryMonitor_fst, if_neg (by simp [going.live]), alone_layout_fst, going.layout,
    going.config]
  simp only [found, Outcome.map, bind, Except.bind, primary]

/-- Without a monitor there is no primary one. -/
theorem gives_noMonitors (going : Going h line none fonts colors s.display)
    (empty : h.report = []) :
    Gives setting.primaryMonitor s (.error .noMonitors) [] (Going h line none fonts colors) := by
  have refused : Layout.ofReport h.report = .error .noMonitors := by
    rw [empty]
    rfl
  have same : s.display.enumerated = s.display := by
    unfold Display.enumerated
    rw [if_neg (by simp [going.live]), going.layout, going.config]
    simp only [refused]
  refine gives_of_mirrors (y := (Setting.alone .nothing).primaryMonitor)
    setting_quiet.primaryMonitor keeps_primaryMonitor
    (Prod.ext ?_ ((alone_primaryMonitor s.display).trans same)) going
  rw [alone_primaryMonitor_fst, if_neg (by simp [going.live]), alone_layout_fst, going.layout,
    going.config]
  simp only [refused, Outcome.map, bind, Except.bind]

/-- The layout that was kept is answered again. -/
theorem gives_monitors (going : Going h line (some l) fonts colors s.display) :
    Gives setting.monitors s (.ok l.monitors) [] (Going h line (some l) fonts colors) := by
  have same : s.display.enumerated = s.display := by
    unfold Display.enumerated
    rw [if_neg (by simp [going.live]), going.layout]
  refine gives_of_mirrors (y := (Setting.alone .nothing).monitors)
    setting_quiet.monitors keeps_monitors (Prod.ext ?_ ((alone_monitors s.display).trans same))
    going
  rw [alone_monitors_fst, if_neg (by simp [going.live]), alone_layout_fst, going.layout]
  rfl

/-! ## What is shown -/

/-- The line of a font. -/
def fontLine (h : HeadlessConfig) (f : Font) : Line :=
  .text (f.text ++ ": " ++ toString (extent h f).1 ++ "x" ++ toString (extent h f).2)

/-- The lines of fonts that were not looked up before. -/
theorem gives_showFonts {l : List Font} (going : Going h line layout fonts colors s.display)
    (modest : ∀ f ∈ l, Modest f) (distinct : l.Nodup) (new : ∀ f ∈ l, f ∉ fonts) :
    Gives (showFonts setting l) s (.ok ()) (l.map (fontLine h))
      (Going h line layout (l.reverse ++ fonts) colors) := by
  induction l generalizing s fonts with
  | nil => exact .pure _ going
  | cons f l ih =>
    obtain ⟨fresh, distinct⟩ := List.nodup_cons.mp distinct
    obtain ⟨hf, modest⟩ := List.forall_mem_cons.mp modest
    obtain ⟨absent, new⟩ := List.forall_mem_cons.mp new
    rw [List.reverse_cons, List.append_assoc]
    refine (gives_textExtent going hf absent).onResources.andThen fun s₁ h₁ => ?_
    refine (gives_print _ h₁).bind fun s₂ h₂ => ?_
    refine ih h₂ modest distinct fun g hg mem => ?_
    obtain rfl | old := List.mem_cons.mp mem
    · exact fresh hg
    · exact new g hg old

/-- The line of a constant. -/
def constantLine (name : String) : Line :=
  .text (Bridge.detect.1.platform.identifier ++ " " ++ name ++ " = " ++
    toString (Bridge.detect.1.constant name).1.toInt)

theorem gives_showConstant (name : String) (s : Stand) (h : P s.display) :
    Gives (do
      let (value, notices) := Bridge.detect.1.constant name
      discard <| Act.each note notices
      print (Bridge.detect.1.platform.identifier ++ " " ++ name ++ " = " ++
        toString value.toInt)) s () [constantLine name] P :=
  (gives_notes _ h).discard.seq fun _ h => gives_print _ h

theorem gives_showConstants (h : P s.display) :
    Gives showConstants s () (constantNames.map constantLine) P := by
  unfold showConstants
  refine (gives_notes _ h).discard.seq fun s₁ h₁ => ?_
  exact (gives_each gives_showConstant constantNames h₁).discard

end DisplayEnv.Probe
