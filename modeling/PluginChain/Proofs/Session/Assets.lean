import PluginChain.Proofs.Session.Serving
import PluginChain.Proofs.Text.Utf8

/-!
# The assets directory as bytes

The directory goes to the plugin as the bytes of its text, and what the plugin tells comes back as
the text of its bytes up to the first NUL. So a plugin that keeps the bytes tells the directory that
it was given; and whatever bytes it tells, the text says whether they are all there.

Main statements:
* `Session.load_hands_over`: a load that goes well hands the directory over once, byte for byte.
* `Session.assetsDir_of_bytes`: what the plugin tells is read up to its first NUL.
* `Session.reached_assets`: both, for every run.
-/

namespace PluginChain

variable {p : Platform}

namespace Text.Terminated

/-- What is behind the first NUL is not read. -/
theorem decode_of_zero {before : List UInt8} (h : 0 ∉ before) (after : List UInt8) :
    decode (before ++ 0 :: after) = Utf8.decodeLossy before := by
  have hkeep : ∀ b ∈ before, (b != 0) = true := fun b hb => bne_iff_ne.2 fun hz => h (hz ▸ hb)
  rw [decode, List.takeWhile_append_of_pos hkeep]
  simp

end Text.Terminated

namespace Session

/-- The load made these calls and no other: starting up, and then handing over the directory, which
    holds no NUL. -/
structure HandsOver (config : Config) (w : p.World) (events : List Event) : Prop where
  calls :
    events.filterMap Event.call? =
      [(.startUp, true), (.setAssets (Text.Utf8.encode config.assetsDir), true)]
  zero : 0 ∉ Text.Utf8.encode config.assetsDir
  /-- The function that got the bytes is the one that the load found for them. -/
  function : ∃ bindings w₁ function w₂, StartsUp config w bindings w₁ ∧
    ⟨⟨Plugin.setAssetsSymbol, true⟩, some function⟩ ∈ bindings ∧
    p.setAssets function (Text.Utf8.encode config.assetsDir) w₁ = (.returned (), w₂)

/-- A load that goes well hands the directory over. -/
theorem load_hands_over {config : Config} {s : Session p} {posture : Posture}
    (hs : s.Settled config posture) (hready : s.stage ≠ .ready) (h : Host p)
    (hok : (s.load.run h).1.1 = .ok ()) :
    HandsOver config (primedWorld config h) (Host.eventsSince h (s.load.run h).2) := by
  obtain ⟨bindings, w₁, function, w₂, hstarts, hnul, hfunction, hset⟩ :=
    course_ok_iff.1 ((load_result_iff hs hready h _).1 hok)
  refine ⟨?_, mt Text.Utf8.zero_mem_encode_iff.1 hnul, bindings, w₁, function, w₂,
    hstarts, hfunction, hset⟩
  obtain ⟨a, ha⟩ := load_has_account hs hready h
  obtain ⟨w', hof⟩ := ha.of
  rw [Host.eventsSince, ha.events, List.drop_left, Account.call?_events hof]
  obtain ⟨-, _, -, hcourse⟩ := hof
  rw [← ha.result, hok] at hcourse
  generalize a.way = way at hcourse ⊢
  cases hcourse
  rfl

/-- A session that serves calls tells what the plugin tells, up to the first NUL. -/
theorem assetsDir_of_bytes {s : Session p} {h : Host p} {library : OpenLibrary p}
    {bindings : List (Binding p.Address)} (hserves : Serves s h library bindings)
    {function : p.Address} (hfunction : ⟨⟨Plugin.getAssetsSymbol, false⟩, some function⟩ ∈ bindings)
    {before after : List UInt8} {w : p.World} (hbefore : 0 ∉ before)
    (htold : p.getAssets function h.world = (.returned (some (before ++ 0 :: after)), w)) :
    (s.assetsDir.run h).1 = .ok (some (Text.Utf8.decodeLossy before)) := by
  obtain ⟨ending, v, hcall, houtcome, -⟩ := hserves.assetsDir function hfunction
  obtain ⟨rfl, rfl⟩ := Prod.mk.inj (htold.symm.trans hcall)
  generalize hresult : (s.assetsDir.run h).1 = result at houtcome ⊢
  cases houtcome
  rw [Text.Terminated.decode_of_zero hbefore]

/-- No session gets ready whose directory holds a NUL. -/
theorem zero_not_mem_of_ready {config : Config} {world : p.World} {turns : List (Turn p)}
    (hready : (reached config world turns).1.stage = .ready) :
    0 ∉ Text.Utf8.encode config.assetsDir := by
  obtain ⟨before, -, ⟨trials, way, result⟩, ha, rfl, -⟩ := ready_account hready
  obtain ⟨_, -, _, -, hcourse⟩ := ha.of
  obtain ⟨_, _, _, _, -, hnul, -, -⟩ := course_ok_iff.1 ⟨_, _, hcourse⟩
  exact mt Text.Utf8.zero_mem_encode_iff.1 hnul

/-- What comes back from the plugin when it tells the assets directory by `function`. -/
structure ComesBack (config : Config) (s : Session p) (h : Host p) (function : p.Address) :
    Prop where
  /-- Of the bytes that the plugin tells, those before the first NUL decide the answer. -/
  told : ∀ before after w, 0 ∉ before →
    p.getAssets function h.world = (.returned (some (before ++ 0 :: after)), w) →
    (s.assetsDir.run h).1 = .ok (some (Text.Utf8.decodeLossy before)) ∧
      '\x00' ∉ (Text.Utf8.decodeLossy before).toList ∧
        Text.Utf8.Renders before (Text.Utf8.decodeLossy before)
  /-- A plugin that tells the bytes that it was handed tells the directory. -/
  returned : ∀ after w,
    p.getAssets function h.world =
      (.returned (some (Text.Utf8.encode config.assetsDir ++ 0 :: after)), w) →
    (s.assetsDir.run h).1 = .ok (some config.assetsDir)

section

variable (config : Config) (world : p.World) (turns : List (Turn p))

/-- What becomes of the assets directory on its ways to the plugin and back, after the run
    `turns`. -/
structure KeepsAssets : Prop where
  handed :
    let s := (reached config world turns).1
    let h := (reached config world turns).2
    s.stage ≠ .ready → (s.load.run h).1.1 = .ok () →
      HandsOver config (primedWorld config h) (Host.eventsSince h (s.load.run h).2)
  /-- The function that tells the directory is the one that the last load found. -/
  comesBack :
    let s := (reached config world turns).1
    let h := (reached config world turns).2
    s.stage = .ready → ∃ bindings, FoundAtLoad config world turns bindings ∧
      ∀ function, ⟨⟨Plugin.getAssetsSymbol, false⟩, some function⟩ ∈ bindings →
        ComesBack config s h function

end

/-- What becomes of the assets directory on its ways to the plugin and back, after every run. -/
theorem reached_assets (config : Config) (world : p.World) (turns : List (Turn p)) :
    KeepsAssets config world turns := by
  obtain ⟨posture, hs, -⟩ := reached_agrees config world turns
  constructor
  case handed => exact fun hready hok => load_hands_over hs hready _ hok
  case comesBack =>
    intro s h hready
    obtain ⟨library, bindings, hfound, hserves⟩ := serves_of_ready hready
    refine ⟨bindings, hfound, fun function hfunction => ⟨?_, ?_⟩⟩
    · intro before after w hbefore htold
      have hrenders := Text.Utf8.decodeLossy_renders before
      exact ⟨assetsDir_of_bytes hserves hfunction hbefore htold, hrenders.zero hbefore, hrenders⟩
    · intro after w htold
      have htext := assetsDir_of_bytes hserves hfunction (zero_not_mem_of_ready hready) htold
      rwa [Text.Utf8.decodeLossy_encode] at htext

end Session

end PluginChain
