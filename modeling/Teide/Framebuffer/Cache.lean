import Mathlib.Data.List.Basic
import Mathlib.Tactic.Common
import Teide.Lib.Runs
import Teide.ResourceMap.Basic
import Teide.Vulkan.Basic

/-!
# The framebuffer cache

`CreateFramebuffer` returns the cached framebuffer of the same render pass, size and attachments, where
attachments are compared by the handles of their image views. The driver is free to give the handle of
a destroyed view to a new one, and no framebuffer ever leaves the cache. So the framebuffer is one of
the views that were passed exactly if it is not older than any of them (`each_returnsOwn_iff`).

A texture is kept with its image view only, and image views are told apart by the number of those
created before them.
-/

namespace Teide.FramebufferCache

open Runs

structure ImageView where
  handle : UInt64
  /-- how many there were before -/
  created : Nat
  deriving DecidableEq

structure FramebufferDesc where
  renderPass : UInt64
  size : Size2i
  attachments : List UInt64
  deriving DecidableEq

/-- A framebuffer of the driver, with the views that it has been created from. -/
structure VkFramebuffer where
  renderPass : UInt64
  size : Size2i
  views : List ImageView
  /-- how many image views there were before -/
  created : Nat

structure Framebuffer where
  framebuffer : VkFramebuffer
  layout : FramebufferLayout
  size : Size2i

structure Device where
  textures : ResourceMap (Option ImageView) := {}
  /-- the number of image views created so far -/
  imageViews : Nat := 0
  framebufferCache : List (FramebufferDesc × VkFramebuffer) := []

inductive Action where
  | createTexture (handle : UInt64)
  | addRef (texture : UInt64)
  | decRef (texture : UInt64)
  | createFramebuffer (renderPass : UInt64) (layout : FramebufferLayout) (size : Size2i)
      (textures : List UInt64)

namespace Device

def liveViews (s : Device) : List ImageView := s.textures.list.filterMap (·.resource)

/-- `GetImpl(texture).imageView` -/
def imageView? (s : Device) (texture : UInt64) : Option ImageView :=
  s.textures.list[texture.toNat]?.bind (·.resource)

/-- `vkCreateFramebuffer`: the driver follows the handles. -/
def createVkFramebuffer (s : Device) (desc : FramebufferDesc) : VkFramebuffer :=
  { renderPass := desc.renderPass
    size := desc.size
    views := desc.attachments.filterMap fun handle => s.liveViews.find? (·.handle = handle)
    created := s.imageViews }

def cached (s : Device) (desc : FramebufferDesc) : Option VkFramebuffer :=
  (s.framebufferCache.find? (·.1 = desc)).map (·.2)

def createFramebuffer (s : Device) (renderPass : UInt64) (layout : FramebufferLayout) (size : Size2i)
    (attachments : List UInt64) : Framebuffer × Device :=
  let desc : FramebufferDesc := { renderPass, size, attachments }
  match s.cached desc with
  | some framebuffer => ({ framebuffer, layout, size }, s)
  | none =>
    let framebuffer := s.createVkFramebuffer desc
    ({ framebuffer, layout, size },
      { s with framebufferCache := s.framebufferCache ++ [(desc, framebuffer)] })

def step (s : Device) : Action → Option Device
  -- no two live views have one handle
  | .createTexture handle =>
    if s.textures.list.length < ResourceMap.maxSize ∧ ∀ view ∈ s.liveViews, view.handle ≠ handle then
      some { s with
        textures := (s.textures.insert (some ⟨handle, s.imageViews⟩)).2
        imageViews := s.imageViews + 1 }
    else none
  -- only a live texture has handles to copy and to destroy
  | .addRef texture => (s.imageView? texture).map fun _ =>
    { s with textures := s.textures.addRef texture }
  | .decRef texture => (s.imageView? texture).map fun _ =>
    { s with textures := s.textures.decRef texture }
  | .createFramebuffer renderPass layout size textures =>
    (textures.mapM s.imageView?).map fun views =>
      (s.createFramebuffer renderPass layout size (views.map (·.handle))).2

/-- `CreateFramebuffer` returns a framebuffer of the views it is passed. -/
def ReturnsOwn (s : Device) : Action → Prop
  | .createFramebuffer renderPass layout size textures =>
    ∀ views ∈ textures.mapM s.imageView?,
      (s.createFramebuffer renderPass layout size (views.map (·.handle))).1.framebuffer.views = views
  | _ => True

/-- No view that `CreateFramebuffer` is passed is younger than a cached framebuffer of the same render
pass, size and handles. -/
def NoneYounger (s : Device) : Action → Prop
  | .createFramebuffer renderPass _ size textures =>
    ∀ views ∈ textures.mapM s.imageView?,
      ∀ framebuffer ∈ s.cached { renderPass, size, attachments := views.map (·.handle) },
        ∀ view ∈ views, view.created < framebuffer.created
  | _ => True

instance (s : Device) : ∀ a, Decidable (s.ReturnsOwn a)
  | .createFramebuffer _ _ _ _ => inferInstanceAs (Decidable (∀ views ∈ (_ : Option _), _ = views))
  | .createTexture _ | .addRef _ | .decRef _ => .isTrue trivial

instance (s : Device) : ∀ a, Decidable (s.NoneYounger a)
  | .createFramebuffer _ _ _ _ =>
    inferInstanceAs (Decidable (∀ views ∈ (_ : Option _), ∀ framebuffer ∈ s.cached _, _))
  | .createTexture _ | .addRef _ | .decRef _ => .isTrue trivial

/-! ### The live views -/

variable {s t : Device}

theorem mem_liveViews_of_imageView? {texture : UInt64} {view : ImageView}
    (h : s.imageView? texture = some view) : view ∈ s.liveViews := by
  obtain ⟨slot, hslot, hview⟩ := Option.bind_eq_some_iff.mp h
  exact List.mem_filterMap.mpr ⟨slot, List.mem_of_getElem? hslot, hview⟩

theorem mem_liveViews_of_mapM {textures : List UInt64} {views : List ImageView}
    (h : textures.mapM s.imageView? = some views) : ∀ view ∈ views, view ∈ s.liveViews := by
  induction textures generalizing views with
  | nil =>
    obtain rfl : [] = views := Option.some.inj h
    exact fun view hview => absurd hview List.not_mem_nil
  | cons texture textures ih =>
    simp only [List.mapM_cons, Option.bind_eq_bind, Option.pure_def, Option.bind_eq_some_iff,
      Option.some.injEq] at h
    obtain ⟨first, hfirst, rest, hrest, rfl⟩ := h
    intro view hview
    rcases List.mem_cons.mp hview with rfl | hview
    · exact mem_liveViews_of_imageView? hfirst
    · exact ih hrest view hview

/-- Counting a texture up or down makes no view. -/
theorem mem_liveViews_of_modify {f : Slot (Option ImageView) → Slot (Option ImageView)}
    (hf : ∀ slot view, (f slot).resource = some view → slot.resource = some view) (k : Nat)
    {view : ImageView} (h : view ∈ (s.textures.list.modify k f).filterMap (·.resource)) :
    view ∈ s.liveViews := by
  obtain ⟨slot, hslot, hview⟩ := List.mem_filterMap.mp h
  obtain ⟨j, hj⟩ := List.mem_iff_getElem?.mp hslot
  rw [List.getElem?_modify] at hj
  obtain ⟨old, hold, rfl⟩ := Option.map_eq_some_iff.mp hj
  refine List.mem_filterMap.mpr ⟨old, List.mem_of_getElem? hold, ?_⟩
  split at hview
  · exact hf old view hview
  · exact hview

theorem resource_of_decRef (slot : Slot (Option ImageView)) (view : ImageView)
    (h : slot.decRef.resource = some view) : slot.resource = some view := by
  unfold Slot.decRef at h
  dsimp only at h
  split at h
  · exact absurd h (Option.some_ne_none view).symm
  · exact h

/-! ### What the cache knows of the live views -/

/-- A cached framebuffer knows the live views that are older: one with the handle of an attachment is
this attachment. -/
structure Knows (s : Device) (desc : FramebufferDesc) (framebuffer : VkFramebuffer) : Prop where
  attachments : desc.attachments = framebuffer.views.map (·.handle)
  views_lt : ∀ view ∈ framebuffer.views, view.created < framebuffer.created
  created_le : framebuffer.created ≤ s.imageViews
  older : ∀ live ∈ s.liveViews, live.created < framebuffer.created →
    ∀ view ∈ framebuffer.views, live.handle = view.handle → live = view

structure Consistent (s : Device) : Prop where
  created_lt : ∀ view ∈ s.liveViews, view.created < s.imageViews
  handle_inj : ∀ v ∈ s.liveViews, ∀ w ∈ s.liveViews, v.handle = w.handle → v = w
  knows : ∀ entry ∈ s.framebufferCache, s.Knows entry.1 entry.2

theorem consistent_init : Consistent {} where
  created_lt := by simp [liveViews]
  handle_inj := by simp [liveViews]
  knows := by simp

theorem Consistent.of_subset (h : s.Consistent) (hlive : ∀ view ∈ t.liveViews, view ∈ s.liveViews)
    (hcount : t.imageViews = s.imageViews) (hcache : t.framebufferCache = s.framebufferCache) :
    t.Consistent where
  created_lt view hview := by
    rw [hcount]
    exact h.created_lt view (hlive view hview)
  handle_inj v hv w hw := h.handle_inj v (hlive v hv) w (hlive w hw)
  knows entry hentry := by
    obtain ⟨hattachments, hlt, hle, holder⟩ := h.knows entry (hcache ▸ hentry)
    exact ⟨hattachments, hlt, hcount ▸ hle, fun live hmem => holder live (hlive live hmem)⟩

/-- A view that is created has a new number, so that no cached framebuffer is younger. -/
theorem Consistent.createTexture (h : s.Consistent) {handle : UInt64}
    (hnew : ∀ view ∈ s.liveViews, view.handle ≠ handle) :
    Consistent { s with
      textures := (s.textures.insert (some ⟨handle, s.imageViews⟩)).2
      imageViews := s.imageViews + 1 } := by
  have hlive (view : ImageView) :
      view ∈ ((s.textures.insert (some ⟨handle, s.imageViews⟩)).2.list.filterMap (·.resource)) ↔
        view ∈ s.liveViews ∨ view = ⟨handle, s.imageViews⟩ := by
    simp [ResourceMap.insert, liveViews]
  refine ⟨fun view hview => ?_, fun v hv w hw hvw => ?_, fun entry hentry => ?_⟩
  · rcases (hlive view).mp hview with hview | rfl
    · exact Nat.lt_succ_of_lt (h.created_lt view hview)
    · exact Nat.lt_succ_self s.imageViews
  · rcases (hlive v).mp hv with hv | rfl <;> rcases (hlive w).mp hw with hw | rfl
    · exact h.handle_inj v hv w hw hvw
    · exact absurd hvw (hnew v hv)
    · exact absurd hvw.symm (hnew w hw)
    · rfl
  · obtain ⟨hattachments, hlt, hle, holder⟩ := h.knows entry hentry
    refine ⟨hattachments, hlt, Nat.le_succ_of_le hle, fun live hmem hcreated => ?_⟩
    rcases (hlive live).mp hmem with hmem | rfl
    · exact holder live hmem hcreated
    · exact absurd hcreated (Nat.not_lt.mpr hle)

/-- The handle of a live view leads the driver to this view. -/
theorem Consistent.find?_handle (h : s.Consistent) {view : ImageView} (hview : view ∈ s.liveViews) :
    s.liveViews.find? (·.handle = view.handle) = some view := by
  cases hfind : s.liveViews.find? (·.handle = view.handle) with
  | none => exact absurd (decide_eq_true rfl) (List.find?_eq_none.mp hfind view hview)
  | some found =>
    have hhandle : found.handle = view.handle := by simpa using List.find?_some hfind
    rw [h.handle_inj found (List.mem_of_find?_eq_some hfind) view hview hhandle]

theorem Consistent.views_createVkFramebuffer (h : s.Consistent) (desc : FramebufferDesc)
    {views : List ImageView} (hlive : ∀ view ∈ views, view ∈ s.liveViews)
    (hdesc : desc.attachments = views.map (·.handle)) :
    (s.createVkFramebuffer desc).views = views := by
  show desc.attachments.filterMap _ = views
  rw [hdesc, List.filterMap_map]
  calc views.filterMap _ = views.filterMap some :=
        List.filterMap_congr fun view hview => h.find?_handle (hlive view hview)
    _ = views := List.filterMap_some

/-! ### Creating a framebuffer -/

section CreateFramebuffer

variable {renderPass : UInt64} {layout : FramebufferLayout} {size : Size2i} {views : List ImageView}
  {framebuffer : VkFramebuffer}

theorem mem_framebufferCache {desc : FramebufferDesc} (h : s.cached desc = some framebuffer) :
    (desc, framebuffer) ∈ s.framebufferCache := by
  obtain ⟨entry, hfind, rfl⟩ := Option.map_eq_some_iff.mp h
  obtain rfl : entry.1 = desc := by simpa using List.find?_some hfind
  exact List.mem_of_find?_eq_some hfind

theorem Consistent.createFramebuffer (h : s.Consistent) (hlive : ∀ view ∈ views, view ∈ s.liveViews) :
    (s.createFramebuffer renderPass layout size (views.map (·.handle))).2.Consistent := by
  unfold Device.createFramebuffer
  dsimp only
  split
  · exact h
  · refine ⟨h.created_lt, h.handle_inj, fun entry hentry => ?_⟩
    rcases List.mem_append.mp hentry with hentry | hentry
    · obtain ⟨hattachments, hlt, hle, holder⟩ := h.knows entry hentry
      exact ⟨hattachments, hlt, hle, holder⟩
    · rw [List.mem_singleton.mp hentry]
      have hviews := h.views_createVkFramebuffer ⟨renderPass, size, views.map (·.handle)⟩ hlive rfl
      refine ⟨by rw [hviews], fun view hview => ?_, Nat.le_refl s.imageViews,
        fun live hmem _ view hview => ?_⟩
      · exact h.created_lt view (hlive view (hviews ▸ hview))
      · exact h.handle_inj live hmem view (hlive view (hviews ▸ hview))

/-- Views with the handles of the attachments are the attachments if none of them is younger. -/
theorem Knows.views_eq {desc : FramebufferDesc} (h : s.Knows desc framebuffer)
    (hdesc : desc.attachments = views.map (·.handle)) (hlive : ∀ view ∈ views, view ∈ s.liveViews)
    (hcreated : ∀ view ∈ views, view.created < framebuffer.created) : framebuffer.views = views := by
  have hmap : framebuffer.views.map (·.handle) = views.map (·.handle) := h.attachments.symm.trans hdesc
  have hlength : framebuffer.views.length = views.length := by simpa using congrArg List.length hmap
  refine List.ext_getElem hlength fun k hk hk' => ?_
  have hhandle : framebuffer.views[k].handle = views[k].handle := by
    have hget := congrArg (·[k]?) hmap
    simpa [hk, hk'] using hget
  have hmem : views[k] ∈ views := List.getElem_mem hk'
  exact (h.older views[k] (hlive _ hmem) (hcreated _ hmem) _ (List.getElem_mem hk) hhandle.symm).symm

theorem Consistent.views_createFramebuffer_iff (h : s.Consistent)
    (hlive : ∀ view ∈ views, view ∈ s.liveViews) :
    (s.createFramebuffer renderPass layout size (views.map (·.handle))).1.framebuffer.views = views ↔
      ∀ framebuffer ∈ s.cached { renderPass, size, attachments := views.map (·.handle) },
        ∀ view ∈ views, view.created < framebuffer.created := by
  unfold Device.createFramebuffer
  dsimp only
  cases hcached : s.cached { renderPass, size, attachments := views.map (·.handle) } with
  | none =>
    refine iff_of_true ?_ fun _ hmem => absurd hmem (Option.not_mem_none _)
    exact h.views_createVkFramebuffer _ hlive rfl
  | some framebuffer =>
    have hknows := h.knows _ (mem_framebufferCache hcached)
    simp only [Option.mem_some_iff, forall_eq']
    constructor
    · rintro rfl
      exact hknows.views_lt
    · exact hknows.views_eq rfl hlive

end CreateFramebuffer

/-! ### Runs -/

theorem Consistent.step (h : s.Consistent) {a : Action} (hstep : s.step a = some t) :
    t.Consistent := by
  cases a with
  | createTexture handle =>
    obtain ⟨⟨-, hnew⟩, hstep⟩ := Option.ite_none_right_eq_some.mp hstep
    obtain rfl := Option.some.inj hstep
    exact h.createTexture hnew
  | addRef texture =>
    obtain ⟨-, -, rfl⟩ := Option.map_eq_some_iff.mp hstep
    exact h.of_subset
      (fun _ => mem_liveViews_of_modify (f := Slot.addRef) (fun _ _ hview => hview) _) rfl rfl
  | decRef texture =>
    obtain ⟨-, -, rfl⟩ := Option.map_eq_some_iff.mp hstep
    exact h.of_subset (fun _ => mem_liveViews_of_modify resource_of_decRef _) rfl rfl
  | createFramebuffer renderPass layout size textures =>
    obtain ⟨views, hviews, rfl⟩ := Option.map_eq_some_iff.mp hstep
    exact h.createFramebuffer (mem_liveViews_of_mapM hviews)

theorem Consistent.returnsOwn_iff (h : s.Consistent) (a : Action) :
    s.ReturnsOwn a ↔ s.NoneYounger a := by
  cases a with
  | createFramebuffer renderPass layout size textures =>
    refine forall₂_congr fun views hviews => ?_
    exact h.views_createFramebuffer_iff (mem_liveViews_of_mapM hviews)
  | createTexture _ | addRef _ | decRef _ => exact Iff.rfl

/-- In a run every framebuffer that `CreateFramebuffer` returns is one of the views it has been passed
exactly if they are never younger than a cached framebuffer of their handles. -/
theorem each_returnsOwn_iff (as : List Action) (h : exec step {} as = some t) :
    Each step ReturnsOwn {} as ↔ Each step NoneYounger {} as :=
  each_iff_each (fun _ _ _ hs ht => hs.step ht) (fun _ a _ hs _ => hs.returnsOwn_iff a)
    consistent_init h

/-- A texture is rendered to twice, and so is one that takes its place. -/
theorem each_returnsOwn_iff_newHandle :
    Each step ReturnsOwn {} [.createTexture 7, .createFramebuffer 1 {} ⟨64, 64⟩ [0],
      .createFramebuffer 1 {} ⟨64, 64⟩ [0], .decRef 0, .createTexture 8,
      .createFramebuffer 1 {} ⟨64, 64⟩ [1]] := by
  refine (each_returnsOwn_iff _ rfl).mpr ?_
  decide

/-- The second texture gets the handle of the first one. -/
theorem not_each_returnsOwn :
    ¬ ∀ (as : List Action) (t : Device), exec step {} as = some t → Each step ReturnsOwn {} as := by
  intro h
  have hrun := h [.createTexture 7, .createFramebuffer 1 {} ⟨64, 64⟩ [0], .decRef 0,
    .createTexture 7, .createFramebuffer 1 {} ⟨64, 64⟩ [1]] _ rfl
  revert hrun
  decide

end Device

end Teide.FramebufferCache
