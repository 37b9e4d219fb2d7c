import Mathlib.Data.List.Forall2
import Teide.Lib.Words
import Teide.Renderer.RenderToTexture
import Teide.Surface.Invariant
import Teide.Vulkan.Formats
import Teide.Vulkan.PhysicalDevice

/-!
# Swapchains

A surface has a swapchain, which it creates anew when it is resized or the presentation engine says
that it is out of date: `CreateSwapchainAndImages` asks the physical device again for what the surface
supports, and creates the swapchain, the buffers for color and depth, and a framebuffer for each image
of the swapchain. `AcquireNextImage` returns one of these framebuffers, and the tasks of the frame
render to it.

The state is that of `Surface`, with the swapchains of its surfaces. Each creation gives its
framebuffers a serial number, since a framebuffer is destroyed when the next swapchain is created.
`held` are the images of the current frame with the framebuffers that have been returned for them.
Where a creation throws, the run ends.
-/

namespace Teide.Surface

/-! ### What a physical device supports -/

inductive ColorSpace where
  | srgbNonlinear
  | other (colorSpace : Nat)
  deriving DecidableEq

structure SurfaceFormat where
  format : VkFormat
  colorSpace : ColorSpace
  deriving DecidableEq

inductive PresentMode where
  | immediate | mailbox | fifo | fifoRelaxed
  deriving DecidableEq

structure SurfaceCapabilities where
  minImageCount : UInt32 := 1
  maxImageCount : UInt32 := 0
  minImageExtent : Size2i := ⟨1, 1⟩
  maxImageExtent : Size2i := ⟨1, 1⟩
  supportedUsageFlags : ImageUsageFlags := {.colorAttachment, .transferSrc}

inductive FormatFeature where
  | depthStencilAttachment
  | other (feature : Nat)
  deriving DecidableEq

structure FormatProperties where
  linearTilingFeatures : Finset FormatFeature := ∅
  optimalTilingFeatures : Finset FormatFeature := ∅

inductive ImageTiling where
  | optimal | linear
  deriving DecidableEq

/-- What the physical device says of a surface, and of formats. -/
structure SurfaceProperties where
  capabilities : SurfaceCapabilities := {}
  formats : List SurfaceFormat
  presentModes : List PresentMode := [.fifo]
  formatProperties : VkFormat → FormatProperties

/-! ### Choices -/

/-- A span that is empty has no front. -/
def chooseSurfaceFormat (availableFormats : List SurfaceFormat) : Option SurfaceFormat :=
  let preferredFormat : SurfaceFormat := ⟨.b8G8R8A8Srgb, .srgbNonlinear⟩
  if preferredFormat ∈ availableFormats then some preferredFormat else availableFormats.head?

def choosePresentMode (availableModes : List PresentMode) : PresentMode :=
  if .mailbox ∈ availableModes then .mailbox else .fifo

/-- `std::clamp` -/
def clamp (value lo hi : UInt32) : UInt32 :=
  if value < lo then lo else if hi < value then hi else value

def chooseSwapExtent (capabilities : SurfaceCapabilities) (windowSize : Size2i) : Size2i where
  x := clamp windowSize.x capabilities.minImageExtent.x capabilities.maxImageExtent.x
  y := clamp windowSize.y capabilities.minImageExtent.y capabilities.maxImageExtent.y

def FormatProperties.supports (props : FormatProperties) (tiling : ImageTiling)
    (features : Finset FormatFeature) : Bool :=
  (tiling = .linear ∧ features ⊆ props.linearTilingFeatures) ∨
    (tiling = .optimal ∧ features ⊆ props.optimalTilingFeatures)

/-- `none` if it throws. -/
def findSupportedFormat (formatProperties : VkFormat → FormatProperties) (candidates : List Format)
    (tiling : ImageTiling) (features : Finset FormatFeature) : Option Format :=
  candidates.find? fun format =>
    format.toVulkan?.any fun vkFormat => (formatProperties vkFormat).supports tiling features

/-- `std::bit_floor` -/
def bitFloor (flags : UInt32) : UInt32 :=
  if flags = 0 then 0 else .ofNat (2 ^ flags.toNat.log2)

/-! ### Creation -/

inductive SharingMode where
  | exclusive | concurrent
  deriving DecidableEq

structure SwapchainCreateInfo where
  minImageCount : UInt32
  imageFormat : SurfaceFormat
  imageExtent : Size2i
  imageUsage : ImageUsageFlags
  imageSharingMode : SharingMode
  queueFamilyIndices : List UInt32
  presentMode : PresentMode

/-- The images that a surface renders to. -/
inductive SwapchainImage where
  | image (index : Nat)
  | color
  | depth

/-- A view of an image that has one level. -/
structure SwapchainImageView where
  image : SwapchainImage
  format : VkFormat
  samples : UInt32
  extent : Size2i

structure Framebuffer where
  serial : Nat
  attachments : List SwapchainImageView
  layout : FramebufferLayout
  size : Size2i

/-- A surface, as far as its swapchain goes. -/
structure Swapchain where
  msaaSampleCount : UInt32
  surfaceExtent : Size2i
  framebufferLayout : FramebufferLayout
  /-- what the device has said, and the swapchain that has been asked for -/
  properties : SurfaceProperties
  createInfo : SwapchainCreateInfo
  framebuffers : List Framebuffer

def createSwapchain (queueFamilyIndices : List UInt32) (properties : SurfaceProperties)
    (surfaceFormat : SurfaceFormat) (surfaceExtent : Size2i) : SwapchainCreateInfo :=
  let surfaceCapabilities := properties.capabilities
  let imageCount := surfaceCapabilities.minImageCount + 1
  { minImageCount :=
      if surfaceCapabilities.maxImageCount > 0 then min imageCount surfaceCapabilities.maxImageCount
      else imageCount
    imageFormat := surfaceFormat
    imageExtent := surfaceExtent
    imageUsage := {.colorAttachment, .transferSrc}
    imageSharingMode := if queueFamilyIndices.length = 1 then .exclusive else .concurrent
    queueFamilyIndices := queueFamilyIndices
    presentMode := choosePresentMode properties.presentModes }

/-- A round of the loop of `CreateFramebuffers`. -/
def createFramebuffer (serial : Nat) (colorBuffer : Option SwapchainImageView)
    (depthBuffer imageView : SwapchainImageView) (layout : FramebufferLayout) (surfaceExtent : Size2i) :
    Framebuffer where
  serial := serial
  attachments :=
    match colorBuffer with
    | some colorBuffer => [colorBuffer, depthBuffer, imageView]
    | none => [imageView, depthBuffer]
  layout := layout
  size := surfaceExtent

/-- `none` if something throws or an assertion fails. Vulkan returns `images` images, which may be
more than it has been asked for. -/
def createSwapchainAndImages (queueFamilies : QueueFamilies) (serial : Nat) (msaaSampleCount : UInt32)
    (extent : Size2i) (properties : SurfaceProperties) (images : Nat) : Option Swapchain := do
  let surfaceFormat ← chooseSurfaceFormat properties.formats
  let colorFormat ← fromVulkan? surfaceFormat.format
  let depthStencilFormat ← findSupportedFormat properties.formatProperties
    [.depth32, .depth32Stencil8, .depth24Stencil8] .optimal {.depthStencilAttachment}
  let framebufferLayout : FramebufferLayout :=
    { colorFormat := some colorFormat
      depthStencilFormat := some depthStencilFormat
      sampleCount := msaaSampleCount
      captureColor := true
      resolveColor := msaaSampleCount > 1 }
  let surfaceExtent := chooseSwapExtent properties.capabilities extent
  let createInfo := createSwapchain (PhysicalDevice.familyIndices queueFamilies) properties
    surfaceFormat surfaceExtent
  guard (createInfo.imageUsage ⊆ properties.capabilities.supportedUsageFlags)
  guard (createInfo.minImageCount.toNat ≤ images)
  let depthVkFormat ← depthStencilFormat.toVulkan?
  let colorBuffer := if msaaSampleCount ≠ 1 then
      some ⟨.color, surfaceFormat.format, msaaSampleCount, surfaceExtent⟩ else none
  let depthBuffer := ⟨.depth, depthVkFormat, msaaSampleCount, surfaceExtent⟩
  -- the assertions of `CreateRenderPass`
  guard (hasDepthOrStencilComponent colorFormat = false ∧ colorFormat ≠ .unknown)
  let framebuffers := (List.range images).map fun i =>
    createFramebuffer serial colorBuffer depthBuffer ⟨.image i, surfaceFormat.format, 1, surfaceExtent⟩
      framebufferLayout surfaceExtent
  return { msaaSampleCount, surfaceExtent, framebufferLayout, properties, createInfo, framebuffers }

/-! ### What is created -/

/-- What Vulkan promises of a surface. -/
structure SurfaceProperties.Valid (properties : SurfaceProperties) : Prop where
  minImageCount : properties.capabilities.minImageCount.toNat + 1 < 2 ^ 32
  maxImageCount : properties.capabilities.maxImageCount = 0 ∨
    properties.capabilities.minImageCount ≤ properties.capabilities.maxImageCount
  imageExtent : properties.capabilities.minImageExtent.x ≤ properties.capabilities.maxImageExtent.x ∧
    properties.capabilities.minImageExtent.y ≤ properties.capabilities.maxImageExtent.y
  fifo : .fifo ∈ properties.presentModes

/-- The surface supports the swapchain that is asked for. -/
structure SwapchainCreateInfo.Supported (info : SwapchainCreateInfo) (properties : SurfaceProperties) :
    Prop where
  minImageCount : properties.capabilities.minImageCount ≤ info.minImageCount
  maxImageCount : properties.capabilities.maxImageCount = 0 ∨
    info.minImageCount ≤ properties.capabilities.maxImageCount
  width : properties.capabilities.minImageExtent.x ≤ info.imageExtent.x ∧
    info.imageExtent.x ≤ properties.capabilities.maxImageExtent.x
  height : properties.capabilities.minImageExtent.y ≤ info.imageExtent.y ∧
    info.imageExtent.y ≤ properties.capabilities.maxImageExtent.y
  imageFormat : info.imageFormat ∈ properties.formats
  imageUsage : info.imageUsage ⊆ properties.capabilities.supportedUsageFlags
  presentMode : info.presentMode ∈ properties.presentModes
  queueFamilyIndices : info.imageSharingMode = .concurrent →
    1 < info.queueFamilyIndices.length ∧ info.queueFamilyIndices.Nodup

/-- The attachments are those of the render pass that `RenderToSurface` begins, and what is presented
is the image that has been rendered to. -/
structure Framebuffer.Presents (framebuffer : Framebuffer) (image : Nat) (clearState : ClearState) :
    Prop where
  fits : List.Forall₂
    (fun attachment view => attachment.format.toVulkan? = some view.format ∧
      attachment.samples = view.samples ∧ view.extent = framebuffer.size)
    (Device.createRenderPass framebuffer.layout clearState .presentSrc) framebuffer.attachments
  presented : ∃ a ∈ (Device.createRenderPass framebuffer.layout clearState .presentSrc).zip
      framebuffer.attachments,
    a.2.image = .image image ∧ a.1.finalLayout = .presentSrcKHR ∧ a.1.Stored

structure Swapchain.Sound (swapchain : Swapchain) : Prop where
  supported : swapchain.properties.Valid → swapchain.createInfo.Supported swapchain.properties
  created : swapchain.createInfo.minImageCount.toNat ≤ swapchain.framebuffers.length
  presents : ∀ (image : Nat) (framebuffer : Framebuffer),
    swapchain.framebuffers[image]? = some framebuffer →
    framebuffer.layout = swapchain.framebufferLayout ∧ framebuffer.size = swapchain.surfaceExtent ∧
      ∀ clearState, framebuffer.Presents image clearState

theorem mem_chooseSurfaceFormat {formats : List SurfaceFormat} {surfaceFormat : SurfaceFormat}
    (h : chooseSurfaceFormat formats = some surfaceFormat) : surfaceFormat ∈ formats := by
  unfold chooseSurfaceFormat at h
  dsimp only at h
  split_ifs at h with hmem
  · exact Option.some.inj h ▸ hmem
  · exact List.mem_of_head? h

theorem mem_choosePresentMode {modes : List PresentMode} (h : .fifo ∈ modes) :
    choosePresentMode modes ∈ modes := by
  unfold choosePresentMode
  split_ifs with hmem
  · exact hmem
  · exact h

theorem clamp_mem {value lo hi : UInt32} (h : lo ≤ hi) :
    lo ≤ clamp value lo hi ∧ clamp value lo hi ≤ hi := by
  unfold clamp
  split_ifs with hlo hhi
  · exact ⟨UInt32.le_refl _, h⟩
  · exact ⟨h, UInt32.le_refl _⟩
  · exact ⟨UInt32.not_lt.mp hlo, UInt32.not_lt.mp hhi⟩

theorem one_le_bitFloor {flags : UInt32} (h : flags ≠ 0) : 1 ≤ bitFloor flags := by
  have hne : flags.toNat ≠ 0 := fun heq => h (UInt32.toNat_inj.mp heq)
  have hlt : 2 ^ flags.toNat.log2 < 2 ^ 32 :=
    Nat.lt_of_le_of_lt (Nat.log2_self_le hne) flags.toNat_lt
  rw [bitFloor, if_neg h, UInt32.le_iff_toNat_le, UInt32.toNat_ofNat_of_lt' hlt]
  exact Nat.one_le_two_pow

theorem one_le_length_familyIndices (queueFamilies : QueueFamilies) :
    1 ≤ (PhysicalDevice.familyIndices queueFamilies).length :=
  List.length_pos_of_mem (PhysicalDevice.mem_familyIndices.mpr (Or.inl rfl))

theorem le_min_of_le {a b c : UInt32} (hb : a ≤ b) (hc : a ≤ c) : a ≤ min b c := by
  show a ≤ if b ≤ c then b else c
  split_ifs
  · exact hb
  · exact hc

theorem min_le_of_right (b c : UInt32) : min b c ≤ c := by
  show (if b ≤ c then b else c) ≤ c
  split_ifs with hle
  · exact hle
  · exact UInt32.le_refl c

theorem createSwapchain_supported (queueFamilies : QueueFamilies) {properties : SurfaceProperties}
    (h : properties.Valid) {surfaceFormat : SurfaceFormat}
    (hformat : surfaceFormat ∈ properties.formats) (extent : Size2i)
    (husage : {.colorAttachment, .transferSrc} ⊆ properties.capabilities.supportedUsageFlags) :
    (createSwapchain (PhysicalDevice.familyIndices queueFamilies) properties surfaceFormat
      (chooseSwapExtent properties.capabilities extent)).Supported properties := by
  have hsucc := Words.toNat_add_one h.minImageCount
  have hcount : properties.capabilities.minImageCount ≤ properties.capabilities.minImageCount + 1 := by
    rw [UInt32.le_iff_toNat_le, hsucc]
    exact Nat.le_succ _
  unfold createSwapchain
  constructor
  · dsimp only
    split_ifs with hmax
    · have hne : properties.capabilities.maxImageCount ≠ 0 := fun heq => by
        rw [heq] at hmax
        exact absurd hmax (by decide)
      exact le_min_of_le hcount (h.maxImageCount.resolve_left hne)
    · exact hcount
  · dsimp only
    split_ifs with hmax
    · exact Or.inr (min_le_of_right _ _)
    · exact Or.inl (by simpa using hmax)
  · exact clamp_mem h.imageExtent.1
  · exact clamp_mem h.imageExtent.2
  · exact hformat
  · exact husage
  · exact mem_choosePresentMode h.fifo
  · dsimp only
    intro hmode
    have hlength := one_le_length_familyIndices queueFamilies
    have hne : (PhysicalDevice.familyIndices queueFamilies).length ≠ 1 := fun heq => by
      rw [if_pos heq] at hmode
      cases hmode
    exact ⟨by omega, (PhysicalDevice.familyIndices_increasing queueFamilies).imp fun hlt =>
      UInt32.ne_of_lt hlt⟩

/-- The framebuffer has the attachments of the render passes for the layout, in their order. -/
theorem presents_createFramebuffer (serial image : Nat) {msaaSampleCount : UInt32}
    (hsamples : 1 ≤ msaaSampleCount) {format depthVkFormat : VkFormat}
    {colorFormat depthStencilFormat : Format} (hcolor : colorFormat.toVulkan? = some format)
    (hdepth : depthStencilFormat.toVulkan? = some depthVkFormat) (extent : Size2i)
    (clearState : ClearState) :
    (createFramebuffer serial
      (if msaaSampleCount ≠ 1 then some ⟨.color, format, msaaSampleCount, extent⟩ else none)
      ⟨.depth, depthVkFormat, msaaSampleCount, extent⟩ ⟨.image image, format, 1, extent⟩
      { colorFormat := some colorFormat
        depthStencilFormat := some depthStencilFormat
        sampleCount := msaaSampleCount
        captureColor := true
        resolveColor := msaaSampleCount > 1 } extent).Presents image clearState := by
  by_cases hone : msaaSampleCount = 1
  · subst hone
    constructor <;> simp [createFramebuffer, Device.createRenderPass, createRenderPass, hcolor, hdepth,
      AttachmentDescription.Stored, getColorImageLayout]
  · have hlt := Words.one_lt_of_ne_one hsamples hone
    constructor <;> simp [createFramebuffer, Device.createRenderPass, createRenderPass, hcolor, hdepth,
      AttachmentDescription.Stored, getColorImageLayout, hone, hlt]

/-- What `CreateSwapchainAndImages` returns is what it has chosen, for each image. -/
theorem createSwapchainAndImages_eq_some {queueFamilies : QueueFamilies} {serial : Nat}
    {msaaSampleCount : UInt32} {extent : Size2i} {properties : SurfaceProperties} {images : Nat}
    {swapchain : Swapchain} (h : createSwapchainAndImages queueFamilies serial msaaSampleCount extent
      properties images = some swapchain) :
    swapchain.framebuffers.length = images ∧
      (∀ framebuffer ∈ swapchain.framebuffers, framebuffer.serial = serial) ∧
      swapchain.msaaSampleCount = msaaSampleCount ∧ swapchain.properties = properties ∧
      swapchain.surfaceExtent = chooseSwapExtent properties.capabilities extent ∧
      (1 ≤ msaaSampleCount → swapchain.Sound) := by
  simp only [createSwapchainAndImages, Option.bind_eq_bind, Option.bind_eq_some_iff,
    Option.guard_eq_some', Option.pure_def, Option.some.injEq] at h
  obtain ⟨surfaceFormat, hsurface, colorFormat, hcolor, depthStencilFormat, -, -, husage, -, hcount,
    depthVkFormat, hdepth, -, -, rfl⟩ := h
  refine ⟨by simp, ?_, rfl, rfl, rfl, fun hsamples => ⟨fun hvalid => ?_, ?_, ?_⟩⟩
  · intro framebuffer hframebuffer
    obtain ⟨i, -, rfl⟩ := List.mem_map.mp hframebuffer
    rfl
  · exact createSwapchain_supported queueFamilies hvalid (mem_chooseSurfaceFormat hsurface) extent husage
  · rw [List.length_map, List.length_range]
    exact hcount
  · intro image framebuffer hframebuffer
    rw [List.getElem?_map, Option.map_eq_some_iff] at hframebuffer
    obtain ⟨i, hi, rfl⟩ := hframebuffer
    obtain ⟨-, rfl⟩ := List.getElem?_eq_some_iff.mp hi
    rw [List.getElem_range]
    exact ⟨rfl, rfl, presents_createFramebuffer serial image hsamples
      (fromVulkan_eq_some_iff.mp hcolor) hdepth _⟩

/-! ### Runs -/

namespace Swapchains

open Runs

structure State where
  base : Surface.State := {}
  swapchains : List Swapchain := []
  /-- how many swapchains have been created -/
  serials : Nat := 0
  /-- the framebuffers of the images of the current frame -/
  held : List (SurfaceImage × Framebuffer) := []

inductive Action where
  | createSurface (extent : Size2i) (multisampled : Bool) (supportedSampleCounts : UInt32)
      (properties : SurfaceProperties) (images : Nat)
  | recreateSwapchain (properties : SurfaceProperties) (images : Nat)
  /-- any other action on the surfaces -/
  | other (a : Surface.Action)

/-- Actions that create a swapchain. -/
def Creates : Surface.Action → Prop
  | .createSurface _ | .recreateSwapchain _ => True
  | _ => False

instance : DecidablePred Creates
  | .createSurface _ | .recreateSwapchain _ => .isTrue trivial
  | .beginFrame | .renderToSurface .. | .imageReady | .onResize _ | .schedule
  | .submitCommandBuffer _ | .throw _ | .endFrame | .gpuComplete => .isFalse id

namespace State

/-- The framebuffer for an image of its surface's swapchain. -/
def framebuffer? (s : State) (image : SurfaceImage) : Option Framebuffer :=
  s.swapchains[image.surface]?.bind fun swapchain => swapchain.framebuffers[image.imageIndex]?

/-- `AcquireNextImage` returns the framebuffer once it has waited, and `EndFrame` clears the images. -/
def heldAfter (s : State) (a : Surface.Action) : List (SurfaceImage × Framebuffer) :=
  match a, s.base.waiting with
  | .imageReady, some (.imageInFlight image) =>
    s.held ++ ((s.framebuffer? image).map (image, ·)).toList
  | .endFrame, _ => []
  | _, _ => s.held

/-- `m_msaaSampleCount`; one sample is always supported. -/
def sampleCount (multisampled : Bool) (supportedSampleCounts : UInt32) : UInt32 :=
  if multisampled then bitFloor supportedSampleCounts else 1

def step (movedFrom : Unit → Option Unit) (queueFamilies : QueueFamilies) (s : State) :
    Action → Option State
  | .createSurface extent multisampled supportedSampleCounts properties images =>
    if supportedSampleCounts ≠ 0 then
      (createSwapchainAndImages queueFamilies s.serials (sampleCount multisampled supportedSampleCounts)
        extent properties images).bind fun swapchain =>
          (s.base.step movedFrom (.createSurface images)).map fun base =>
            { s with base, swapchains := s.swapchains ++ [swapchain], serials := s.serials + 1 }
    else none
  | .recreateSwapchain properties images =>
    match s.base.waiting with
    | some (.deviceIdle surface) => s.swapchains[surface]?.bind fun old =>
      (createSwapchainAndImages queueFamilies s.serials old.msaaSampleCount old.surfaceExtent properties
        images).bind fun swapchain =>
          (s.base.step movedFrom (.recreateSwapchain images)).map fun base =>
            { s with base, swapchains := s.swapchains.set surface swapchain, serials := s.serials + 1 }
    | _ => none
  | .other a =>
    if Creates a then none
    else (s.base.step movedFrom a).map fun base => { s with base, held := s.heldAfter a }

end State

variable {movedFrom : Unit → Option Unit} {queueFamilies : QueueFamilies} {s t : State} {a : Action}

/-- How many images the surfaces have. -/
def imageCounts (s : Surface.State) : List Nat := s.surfaces.map (·.imagesInFlight.length)

/-- The image that is waited for is one of its surface. -/
def WaitsInRange (s : Surface.State) : Prop :=
  ∀ image, s.waiting = some (.imageInFlight image) →
    ∃ count ∈ (imageCounts s)[image.surface]?, image.imageIndex < count

/-- Only the creation of a swapchain changes how many images there are. -/
theorem imageCounts_step {base base' : Surface.State} {a : Surface.Action}
    (h : base.step movedFrom a = some base') (hnot : ¬ Creates a) :
    imageCounts base' = imageCounts base ∧
      (base'.waiting = base.waiting ∨ WaitsInRange base') := by
  cases a with
  | createSurface | recreateSwapchain => exact absurd trivial hnot
  | beginFrame =>
    obtain ⟨-, h⟩ := Option.ite_none_left_eq_some.mp h
    obtain ⟨-, h⟩ := Option.ite_none_right_eq_some.mp h
    obtain rfl := Option.some.inj h
    exact ⟨rfl, Or.inl rfl⟩
  | renderToSurface surface result =>
    obtain ⟨-, h⟩ := Option.ite_none_right_eq_some.mp h
    unfold Surface.State.renderToSurface at h
    split at h
    · obtain rfl := Option.some.inj h
      exact ⟨rfl, Or.inl rfl⟩
    · obtain ⟨this, hthis, h⟩ := Option.bind_eq_some_iff.mp h
      unfold Surface.State.acquireNextImage at h
      obtain ⟨-, h⟩ := Option.ite_none_right_eq_some.mp h
      have hcounts : (base.surfaces.set surface this.getNextSemaphore.2).map
          (·.imagesInFlight.length) = imageCounts base := ListSet.map_set_self hthis rfl
      cases result with
      | success imageIndex | suboptimal imageIndex =>
        obtain ⟨hindex, h⟩ := Option.ite_none_right_eq_some.mp h
        obtain rfl := Option.some.inj h
        refine ⟨hcounts, Or.inr fun image himage => ?_⟩
        obtain rfl := Waiting.imageInFlight.inj (Option.some.inj himage)
        refine ⟨this.imagesInFlight.length, ?_, hindex⟩
        refine (congrArg (fun counts : List Nat => counts[surface]?) hcounts).trans ?_
        rw [imageCounts, List.getElem?_map, hthis, Option.map_some]
      | errorOutOfDate =>
        obtain rfl := Option.some.inj h
        refine ⟨hcounts, Or.inr fun image himage => ?_⟩
        cases himage
      | error =>
        obtain rfl := Option.some.inj h
        exact ⟨hcounts, Or.inl rfl⟩
  | imageReady =>
    dsimp only [Surface.State.step] at h
    split at h
    · obtain ⟨-, h⟩ := Option.ite_none_right_eq_some.mp h
      obtain rfl := Option.some.inj h
      refine ⟨?_, Or.inr fun image himage => ?_⟩
      · apply ListSet.map_modify_of_eq
        exact fun this => List.length_set
      · cases himage
    · cases h
  | onResize surface =>
    obtain ⟨-, h⟩ := Option.ite_none_left_eq_some.mp h
    obtain ⟨-, -, rfl⟩ := Option.map_eq_some_iff.mp h
    refine ⟨rfl, Or.inr fun image himage => ?_⟩
    cases himage
  | schedule =>
    obtain rfl := Option.some.inj h
    exact ⟨rfl, Or.inl rfl⟩
  | submitCommandBuffer i =>
    obtain ⟨task, -, h⟩ := Option.bind_eq_some_iff.mp h
    obtain ⟨⟨bundle, executor⟩, -, rfl⟩ := Option.map_eq_some_iff.mp h
    exact ⟨rfl, Or.inl rfl⟩
  | throw i =>
    obtain ⟨-, -, rfl⟩ := Option.map_eq_some_iff.mp h
    exact ⟨rfl, Or.inl rfl⟩
  | endFrame =>
    obtain ⟨-, h⟩ := Option.ite_none_right_eq_some.mp h
    obtain rfl := Option.some.inj h
    unfold Surface.State.endFrame
    split <;> exact ⟨rfl, Or.inl rfl⟩
  | gpuComplete =>
    dsimp only [Surface.State.step, Surface.State.gpuComplete] at h
    split at h
    · cases h
    · obtain rfl := Option.some.inj h
      exact ⟨rfl, Or.inl rfl⟩

theorem length_createSwapchainAndImages (this : VulkanSurface) (images : Nat) :
    (this.createSwapchainAndImages images).imagesInFlight.length = images := by
  simp only [VulkanSurface.createSwapchainAndImages, List.length_append, List.length_take,
    List.length_replicate]
  omega

structure Linked (s : State) : Prop where
  /-- each surface has a framebuffer for each of its images -/
  counts : s.swapchains.map (·.framebuffers.length) = imageCounts s.base
  waits : WaitsInRange s.base
  held : s.held.map Prod.fst = s.base.surfacesToPresent
  /-- tasks render to images of the current frame -/
  targets : ∀ task ∈ s.base.tasks, ∀ image ∈ task.commandBuffer.target,
    image ∈ s.base.surfacesToPresent
  samples : ∀ swapchain ∈ s.swapchains, 1 ≤ swapchain.msaaSampleCount
  sound : ∀ swapchain ∈ s.swapchains, swapchain.Sound

theorem linked_init : Linked {} := by
  constructor
  · rfl
  · intro image himage
    cases himage
  · rfl
  · simp
  · simp
  · simp

theorem Linked.exists_framebuffer (hs : Linked s) {image : SurfaceImage}
    (himage : s.base.waiting = some (.imageInFlight image)) :
    ∃ framebuffer, s.framebuffer? image = some framebuffer := by
  obtain ⟨count, hcount, hlt⟩ := hs.waits image himage
  rw [← hs.counts] at hcount
  rw [Option.mem_def, List.getElem?_map, Option.map_eq_some_iff] at hcount
  obtain ⟨swapchain, hswapchain, rfl⟩ := hcount
  exact ⟨swapchain.framebuffers[image.imageIndex], by
    rw [State.framebuffer?, hswapchain, Option.bind_some, List.getElem?_eq_getElem hlt]⟩

/-- What a step of the surfaces does to the images of the frame and to those who render to them. -/
theorem Linked.held_step (hs : Linked s) {a : Surface.Action} {base : Surface.State}
    (hnot : ¬ Creates a) (h : s.base.step movedFrom a = some base) :
    (s.heldAfter a).map Prod.fst = base.surfacesToPresent ∧
      ∀ task ∈ base.tasks, ∀ image ∈ task.commandBuffer.target, image ∈ base.surfacesToPresent := by
  have hmove := move_of_step h
  cases hmove with
  | createSurface | recreateSwapchain => exact absurd trivial hnot
  | beginFrame | acquire | outOfDate | error | onResize | gpuComplete => exact ⟨hs.held, hs.targets⟩
  | render himage =>
    refine ⟨hs.held, List.forall_mem_append.mpr ⟨hs.targets, ?_⟩⟩
    rintro task htask image' himage'
    obtain rfl := List.mem_singleton.mp htask
    obtain rfl := Option.some.inj himage'
    exact himage
  | @imageReady image surfaces hwaiting =>
    obtain ⟨framebuffer, hframebuffer⟩ := hs.exists_framebuffer hwaiting
    constructor
    · simp only [State.heldAfter, hwaiting, hframebuffer, Option.map_some, Option.toList_some,
        List.map_append, hs.held]
      rfl
    · refine List.forall_mem_append.mpr ⟨fun task htask image' himage' => ?_, ?_⟩
      · exact List.mem_append_left _ (hs.targets task htask image' himage')
      · rintro task htask image' himage'
        obtain rfl := List.mem_singleton.mp htask
        obtain rfl := Option.some.inj himage'
        exact List.mem_append_right _ (List.mem_singleton_self _)
  | schedule =>
    refine ⟨hs.held, List.forall_mem_append.mpr ⟨hs.targets, ?_⟩⟩
    rintro task htask image' himage'
    obtain rfl := List.mem_singleton.mp htask
    cases himage'
  | submitCommandBuffer =>
    exact ⟨hs.held, fun task htask => hs.targets task (List.mem_of_mem_eraseIdx htask)⟩
  | throw => exact ⟨hs.held, fun task htask => hs.targets task (List.mem_of_mem_eraseIdx htask)⟩
  | endEmptyFrame himages =>
    refine ⟨himages.symm, ?_⟩
    exact hs.targets
  | endFrame =>
    refine ⟨rfl, fun task htask => ?_⟩
    obtain ⟨⟨-, -, htasks⟩, -⟩ := Option.ite_none_right_eq_some.mp h
    rw [htasks] at htask
    cases htask

theorem Linked.step (hs : Linked s) (h : s.step movedFrom queueFamilies a = some t) : Linked t := by
  cases a with
  | createSurface extent multisampled supportedSampleCounts properties images =>
    obtain ⟨hsupported, h⟩ := Option.ite_none_right_eq_some.mp h
    obtain ⟨swapchain, hcreate, h⟩ := Option.bind_eq_some_iff.mp h
    obtain ⟨base, hbase, rfl⟩ := Option.map_eq_some_iff.mp h
    obtain rfl := Option.some.inj hbase
    obtain ⟨hlength, -, hsamples, -, -, hsound⟩ := createSwapchainAndImages_eq_some hcreate
    have hone : 1 ≤ State.sampleCount multisampled supportedSampleCounts := by
      unfold State.sampleCount
      split
      · exact one_le_bitFloor hsupported
      · decide
    constructor
    · simp only [imageCounts, List.map_append, List.map_cons, List.map_nil, hlength,
        length_createSwapchainAndImages, hs.counts]
    · intro image himage
      obtain ⟨count, hcount, hlt⟩ := hs.waits image himage
      refine ⟨count, ?_, hlt⟩
      rw [imageCounts, List.map_append]
      exact List.getElem?_append_left (List.getElem?_eq_some_iff.mp hcount).1 ▸ hcount
    · exact hs.held
    · exact hs.targets
    · exact List.forall_mem_append.mpr ⟨hs.samples, by simpa [hsamples] using hone⟩
    · exact List.forall_mem_append.mpr ⟨hs.sound, by simpa using hsound hone⟩
  | recreateSwapchain properties images =>
    dsimp only [State.step] at h
    split at h
    · rename_i surface hwaiting
      obtain ⟨old, hold, h⟩ := Option.bind_eq_some_iff.mp h
      obtain ⟨swapchain, hcreate, h⟩ := Option.bind_eq_some_iff.mp h
      obtain ⟨base, hbase, rfl⟩ := Option.map_eq_some_iff.mp h
      obtain ⟨hlength, -, hsamples, -, -, hsound⟩ := createSwapchainAndImages_eq_some hcreate
      have hone := hs.samples old (List.mem_of_getElem? hold)
      simp only [Surface.State.step, hwaiting, Surface.State.recreateSwapchain] at hbase
      obtain ⟨-, hbase⟩ := Option.ite_none_right_eq_some.mp hbase
      obtain rfl := Option.some.inj hbase
      constructor
      · dsimp only [imageCounts]
        rw [ListSet.map_modify_of_const _ surface
          fun this => length_createSwapchainAndImages this images, List.map_set, hlength]
        exact congrArg (List.set · surface images) hs.counts
      · intro image himage
        cases himage
      · exact hs.held
      · exact hs.targets
      · exact fun x hx => (List.mem_or_eq_of_mem_set hx).elim (hs.samples x) fun heq => by
          rw [heq, hsamples]
          exact hone
      · exact fun x hx => (List.mem_or_eq_of_mem_set hx).elim (hs.sound x) fun heq => heq ▸ hsound hone
    · cases h
  | other a =>
    obtain ⟨hnot, h⟩ := Option.ite_none_left_eq_some.mp h
    obtain ⟨base, hbase, rfl⟩ := Option.map_eq_some_iff.mp h
    obtain ⟨hcounts, hwaits⟩ := imageCounts_step hbase hnot
    obtain ⟨hheld, htargets⟩ := hs.held_step hnot hbase
    refine ⟨hs.counts.trans hcounts.symm, ?_, hheld, htargets, hs.samples, hs.sound⟩
    obtain hsame | hwaits := hwaits
    · intro image himage
      rw [hcounts]
      exact hs.waits image (hsame.symm.trans himage)
    · exact hwaits

theorem Linked.of_reachable (hr : Reachable (State.step movedFrom queueFamilies) {} s) : Linked s :=
  hr.invariant (fun _ _ _ hs h => hs.step h) linked_init

/-- A window of which the device supports three images and every format for depth. -/
def windowProperties : SurfaceProperties where
  capabilities :=
    { minImageCount := 2
      maxImageCount := 3
      minImageExtent := ⟨640, 480⟩
      maxImageExtent := ⟨640, 480⟩ }
  formats := [⟨.r8G8B8A8Srgb, .srgbNonlinear⟩, ⟨.b8G8R8A8Srgb, .srgbNonlinear⟩]
  formatProperties := fun _ => { optimalTilingFeatures := {.depthStencilAttachment} }

/-- A window is resized, and then a frame renders to it. -/
def resizedBetweenFrames : List Action :=
  [.createSurface ⟨800, 600⟩ true 0x5 windowProperties 3, .other (.onResize 0),
    .recreateSwapchain windowProperties 3, .other .beginFrame,
    .other (.renderToSurface 0 (.success 1)), .other .imageReady, .other (.submitCommandBuffer 0)]

/-- The framebuffers of the current frame are those that their surfaces have now, and none is about to be
replaced. -/
def Current (s : State) : Prop :=
  ∀ h ∈ s.held, s.framebuffer? h.1 = some h.2 ∧ s.base.waiting ≠ some (.deviceIdle h.1.surface)

/-- No surface is resized that the current frame has an image of. -/
def SparesHeld (s : State) : Action → Prop
  | .other (.onResize surface) => ∀ image ∈ s.base.surfacesToPresent, image.surface ≠ surface
  | _ => True

instance (s : State) : DecidablePred (SparesHeld s)
  | .other (.onResize surface) =>
    inferInstanceAs (Decidable (∀ image ∈ s.base.surfacesToPresent, image.surface ≠ surface))
  | .createSurface .. | .recreateSwapchain .. | .other (.createSurface _)
  | .other (.recreateSwapchain _) | .other .beginFrame | .other (.renderToSurface ..)
  | .other .imageReady | .other .schedule | .other (.submitCommandBuffer _) | .other (.throw _)
  | .other .endFrame | .other .gpuComplete => .isTrue trivial

/-- What a step does to framebuffers that are held: they stay what they are, unless their swapchain is
replaced. -/
theorem framebuffer_eq (h : s.step movedFrom queueFamilies a = some t) {image : SurfaceImage}
    {framebuffer : Framebuffer} (himage : s.framebuffer? image = some framebuffer)
    (hwaiting : s.base.waiting ≠ some (.deviceIdle image.surface)) :
    t.framebuffer? image = some framebuffer := by
  cases a with
  | createSurface extent multisampled supportedSampleCounts properties images =>
    obtain ⟨-, h⟩ := Option.ite_none_right_eq_some.mp h
    obtain ⟨swapchain, -, h⟩ := Option.bind_eq_some_iff.mp h
    obtain ⟨base, -, rfl⟩ := Option.map_eq_some_iff.mp h
    obtain ⟨old, hold, hframebuffer⟩ := Option.bind_eq_some_iff.mp himage
    rw [State.framebuffer?, List.getElem?_append_left (List.getElem?_eq_some_iff.mp hold).1, hold]
    exact hframebuffer
  | recreateSwapchain properties images =>
    dsimp only [State.step] at h
    split at h
    · rename_i surface hidle
      obtain ⟨old, -, h⟩ := Option.bind_eq_some_iff.mp h
      obtain ⟨swapchain, -, h⟩ := Option.bind_eq_some_iff.mp h
      obtain ⟨base, -, rfl⟩ := Option.map_eq_some_iff.mp h
      have hne : surface ≠ image.surface := fun heq => hwaiting (heq ▸ hidle)
      rw [State.framebuffer?, List.getElem?_set_ne hne]
      exact himage
    · cases h
  | other a =>
    obtain ⟨-, h⟩ := Option.ite_none_left_eq_some.mp h
    obtain ⟨base, -, rfl⟩ := Option.map_eq_some_iff.mp h
    exact himage

theorem current_step_iff (hs : Linked s) (hc : Current s)
    (h : s.step movedFrom queueFamilies a = some t) : Current t ↔ SparesHeld s a := by
  have hframebuffer : ∀ x ∈ s.held, t.framebuffer? x.1 = some x.2 := fun x hx =>
    framebuffer_eq h (hc x hx).1 (hc x hx).2
  cases a with
  | createSurface extent multisampled supportedSampleCounts properties images =>
    obtain ⟨-, h⟩ := Option.ite_none_right_eq_some.mp h
    obtain ⟨swapchain, -, h⟩ := Option.bind_eq_some_iff.mp h
    obtain ⟨base, hbase, rfl⟩ := Option.map_eq_some_iff.mp h
    obtain rfl := Option.some.inj hbase
    exact iff_of_true (fun x hx => ⟨hframebuffer x hx, (hc x hx).2⟩) trivial
  | recreateSwapchain properties images =>
    dsimp only [State.step] at h
    split at h
    · rename_i surface hidle
      obtain ⟨old, -, h⟩ := Option.bind_eq_some_iff.mp h
      obtain ⟨swapchain, -, h⟩ := Option.bind_eq_some_iff.mp h
      obtain ⟨base, hbase, rfl⟩ := Option.map_eq_some_iff.mp h
      simp only [Surface.State.step, hidle, Surface.State.recreateSwapchain] at hbase
      obtain ⟨-, hbase⟩ := Option.ite_none_right_eq_some.mp hbase
      obtain rfl := Option.some.inj hbase
      exact iff_of_true (fun x hx => ⟨hframebuffer x hx, by simp⟩) trivial
    · cases h
  | other a =>
    obtain ⟨hnot, h⟩ := Option.ite_none_left_eq_some.mp h
    obtain ⟨base, hbase, rfl⟩ := Option.map_eq_some_iff.mp h
    have hmove := move_of_step hbase
    cases hmove with
    | createSurface | recreateSwapchain => exact absurd trivial hnot
    | beginFrame | render | error | schedule | submitCommandBuffer | throw | gpuComplete =>
      exact iff_of_true (fun x hx => ⟨hframebuffer x hx, (hc x hx).2⟩) trivial
    | acquire => exact iff_of_true (fun x hx => ⟨hframebuffer x hx, by simp⟩) trivial
    | outOfDate _ _ hnew =>
      -- only surfaces that the frame has no image of are asked for one
      refine iff_of_true (fun x hx => ⟨hframebuffer x hx, fun heq => ?_⟩) trivial
      have hmem : x.1 ∈ s.base.surfacesToPresent := hs.held ▸ List.mem_map_of_mem hx
      exact hnew x.1 hmem (Waiting.deviceIdle.inj (Option.some.inj heq)).symm
    | onResize surface =>
      constructor
      · intro ht image himage heq
        rw [← hs.held] at himage
        obtain ⟨x, hx, rfl⟩ := List.mem_map.mp himage
        exact (ht x hx).2 (heq ▸ rfl)
      · refine fun hspares x hx => ⟨hframebuffer x hx, fun heq => ?_⟩
        have hmem : x.1 ∈ s.base.surfacesToPresent := hs.held ▸ List.mem_map_of_mem hx
        exact hspares x.1 hmem (Waiting.deviceIdle.inj (Option.some.inj heq)).symm
    | @imageReady image surfaces hwaiting =>
      obtain ⟨framebuffer, hnew⟩ := hs.exists_framebuffer hwaiting
      refine iff_of_true (fun x hx => ⟨?_, by simp [Surface.State.scheduleGpu]⟩) trivial
      simp only [State.heldAfter, hwaiting, hnew, Option.map_some, Option.toList_some,
        List.mem_append, List.mem_singleton] at hx
      obtain hx | rfl := hx
      · exact hframebuffer x hx
      · exact hnew
    | endEmptyFrame | endFrame => exact iff_of_true (fun x hx => absurd hx List.not_mem_nil) trivial

/-- **Framebuffers outlive the frame that renders to them** exactly if no surface is resized while the
current frame has an image of it: along any run, every image that has been acquired for the current
frame has at all times the framebuffer that was returned for it among those of its surface's
swapchain, and no swapchain is about to be replaced under such an image. Surfaces that are out of date
are none of these. -/
theorem current_iff_spares {as : List Action}
    (hrun : exec (State.step movedFrom queueFamilies) {} as = some s) :
    Always (State.step movedFrom queueFamilies) Current {} as ↔
      Each (State.step movedFrom queueFamilies) SparesHeld {} as := by
  refine always_iff_each (I := Linked) ?_ ?_ linked_init ?_ hrun
  · exact fun s a t hs _ h _ => hs.step h
  · exact fun s a t hs hc h => current_step_iff hs hc h
  · exact fun x hx => absurd hx List.not_mem_nil

theorem current_iff_spares_resizedBetweenFrames :
    Always (State.step (fun _ => none) {}) Current {} resizedBetweenFrames :=
  (current_iff_spares
    (rfl : exec (State.step (fun _ => none) {}) {} resizedBetweenFrames = some _)).mpr (by decide)

/-- Serial numbers are those of swapchains that have been created. -/
structure Numbered (s : State) : Prop where
  swapchains : ∀ swapchain ∈ s.swapchains, ∀ framebuffer ∈ swapchain.framebuffers,
    framebuffer.serial < s.serials
  held : ∀ x ∈ s.held, x.2.serial < s.serials

theorem Numbered.framebuffer (hs : Numbered s) {image : SurfaceImage} {framebuffer : Framebuffer}
    (h : s.framebuffer? image = some framebuffer) : framebuffer.serial < s.serials := by
  obtain ⟨swapchain, hswapchain, hframebuffer⟩ := Option.bind_eq_some_iff.mp h
  exact hs.swapchains swapchain (List.mem_of_getElem? hswapchain) framebuffer
    (List.mem_of_getElem? hframebuffer)

/-- A swapchain more, with the next serial number. -/
theorem Numbered.create (hs : Numbered s) {swapchain : Swapchain} {base : Surface.State}
    {swapchains : List Swapchain}
    (hserial : ∀ framebuffer ∈ swapchain.framebuffers, framebuffer.serial = s.serials)
    (hmem : ∀ x ∈ swapchains, x ∈ s.swapchains ∨ x = swapchain) :
    Numbered { s with base, swapchains, serials := s.serials + 1 } where
  swapchains x hx framebuffer hframebuffer := by
    obtain hx | rfl := hmem x hx
    · exact Nat.lt_succ_of_lt (hs.swapchains x hx framebuffer hframebuffer)
    · exact Nat.lt_succ_of_le (Nat.le_of_eq (hserial framebuffer hframebuffer))
  held x hx := Nat.lt_succ_of_lt (hs.held x hx)

theorem Numbered.step (hs : Numbered s) (h : s.step movedFrom queueFamilies a = some t) :
    Numbered t := by
  cases a with
  | createSurface extent multisampled supportedSampleCounts properties images =>
    obtain ⟨-, h⟩ := Option.ite_none_right_eq_some.mp h
    obtain ⟨swapchain, hcreate, h⟩ := Option.bind_eq_some_iff.mp h
    obtain ⟨base, -, rfl⟩ := Option.map_eq_some_iff.mp h
    exact hs.create (createSwapchainAndImages_eq_some hcreate).2.1 fun x hx =>
      (List.mem_append.mp hx).imp_right List.mem_singleton.mp
  | recreateSwapchain properties images =>
    dsimp only [State.step] at h
    split at h
    · obtain ⟨old, -, h⟩ := Option.bind_eq_some_iff.mp h
      obtain ⟨swapchain, hcreate, h⟩ := Option.bind_eq_some_iff.mp h
      obtain ⟨base, -, rfl⟩ := Option.map_eq_some_iff.mp h
      exact hs.create (createSwapchainAndImages_eq_some hcreate).2.1 fun x hx =>
        List.mem_or_eq_of_mem_set hx
    · cases h
  | other a =>
    obtain ⟨-, h⟩ := Option.ite_none_left_eq_some.mp h
    obtain ⟨base, -, rfl⟩ := Option.map_eq_some_iff.mp h
    refine ⟨hs.swapchains, fun x hx => ?_⟩
    dsimp only [State.heldAfter] at hx
    split at hx
    · rename_i image _
      obtain hx | hx := List.mem_append.mp hx
      · exact hs.held x hx
      · obtain ⟨framebuffer, hframebuffer, rfl⟩ :=
          Option.map_eq_some_iff.mp (Option.mem_toList.mp hx)
        exact hs.framebuffer hframebuffer
    · exact absurd hx List.not_mem_nil
    · exact hs.held x hx

/-- A surface that is resized loses the framebuffers of the images that the current frame has of it: they
are not among those of the new swapchain. -/
theorem held_not_mem_recreated (hr : Reachable (State.step movedFrom queueFamilies) {} s)
    {properties : SurfaceProperties} {images surface : Nat}
    (hidle : s.base.waiting = some (.deviceIdle surface))
    (h : s.step movedFrom queueFamilies (.recreateSwapchain properties images) = some t) :
    ∀ x ∈ t.held, ∀ swapchain ∈ t.swapchains[surface]?, x.2 ∉ swapchain.framebuffers := by
  have hs : Numbered s := hr.invariant (fun _ _ _ hs h => hs.step h) ⟨by simp, by simp⟩
  simp only [State.step, hidle] at h
  obtain ⟨old, hold, h⟩ := Option.bind_eq_some_iff.mp h
  obtain ⟨swapchain, hcreate, h⟩ := Option.bind_eq_some_iff.mp h
  obtain ⟨base, -, rfl⟩ := Option.map_eq_some_iff.mp h
  intro x hx swapchain' hswapchain hmem
  obtain rfl : swapchain = swapchain' := by
    rw [List.getElem?_set_self (List.getElem?_eq_some_iff.mp hold).1] at hswapchain
    exact Option.some.inj hswapchain
  have hserial := (createSwapchainAndImages_eq_some hcreate).2.1 x.2 hmem
  exact absurd (hs.held x hx) (Nat.not_lt.mpr (Nat.le_of_eq hserial.symm))

end Swapchains

end Teide.Surface
