import Teide.Lib.StaticMap
import Teide.Vulkan.Basic

/-!
# Vulkan's formats

Every format has one of Vulkan's formats. `FromVulkan`, which is asked about the formats of surfaces,
finds the way back for these, and throws for the formats that Teide does not know.
-/

namespace Teide

open StaticMaps

/-- `vk::Format`. The formats that Teide has no name for are numbered. -/
inductive VkFormat where
  | undefined | r8Uint | r8Unorm | r16Sint | r16Snorm | r16Uint | r16Unorm | r16Sfloat | r32Sint
  | r32Uint | r32Sfloat | r8G8Uint | r8G8Unorm | r16G16Sint | r16G16Snorm | r16G16Uint
  | r16G16Unorm | r16G16Sfloat | r32G32Sint | r32G32Uint | r32G32Sfloat | r8G8B8Uint | r8G8B8Unorm
  | r16G16B16Sint | r16G16B16Snorm | r16G16B16Uint | r16G16B16Unorm | r16G16B16Sfloat
  | r32G32B32Sint | r32G32B32Uint | r32G32B32Sfloat | r8G8B8A8Uint | r8G8B8A8Unorm | r8G8B8A8Srgb
  | b8G8R8A8Srgb | r16G16B16A16Sint | r16G16B16A16Snorm | r16G16B16A16Uint | r16G16B16A16Unorm
  | r16G16B16A16Sfloat | r32G32B32A32Sint | r32G32B32A32Uint | r32G32B32A32Sfloat | d16Unorm
  | d32Sfloat | d16UnormS8Uint | d24UnormS8Uint | d32SfloatS8Uint | s8Uint
  | other (format : Nat)
  deriving DecidableEq

def vulkanFormats : StaticMap Format VkFormat where
  data :=
    [(.unknown, .undefined), (.byte1, .r8Uint), (.byte1Norm, .r8Unorm), (.short1, .r16Sint),
      (.short1Norm, .r16Snorm), (.ushort1, .r16Uint), (.ushort1Norm, .r16Unorm),
      (.half1, .r16Sfloat), (.int1, .r32Sint), (.uint1, .r32Uint), (.float1, .r32Sfloat),
      (.byte2, .r8G8Uint), (.byte2Norm, .r8G8Unorm), (.short2, .r16G16Sint),
      (.short2Norm, .r16G16Snorm), (.ushort2, .r16G16Uint), (.ushort2Norm, .r16G16Unorm),
      (.half2, .r16G16Sfloat), (.int2, .r32G32Sint), (.uint2, .r32G32Uint),
      (.float2, .r32G32Sfloat), (.byte3, .r8G8B8Uint), (.byte3Norm, .r8G8B8Unorm),
      (.short3, .r16G16B16Sint), (.short3Norm, .r16G16B16Snorm), (.ushort3, .r16G16B16Uint),
      (.ushort3Norm, .r16G16B16Unorm), (.half3, .r16G16B16Sfloat), (.int3, .r32G32B32Sint),
      (.uint3, .r32G32B32Uint), (.float3, .r32G32B32Sfloat), (.byte4, .r8G8B8A8Uint),
      (.byte4Norm, .r8G8B8A8Unorm), (.byte4Srgb, .r8G8B8A8Srgb), (.byte4SrgbBGRA, .b8G8R8A8Srgb),
      (.short4, .r16G16B16A16Sint), (.short4Norm, .r16G16B16A16Snorm),
      (.ushort4, .r16G16B16A16Uint), (.ushort4Norm, .r16G16B16A16Unorm),
      (.half4, .r16G16B16A16Sfloat), (.int4, .r32G32B32A32Sint), (.uint4, .r32G32B32A32Uint),
      (.float4, .r32G32B32A32Sfloat), (.depth16, .d16Unorm), (.depth32, .d32Sfloat),
      (.depth16Stencil8, .d16UnormS8Uint), (.depth24Stencil8, .d24UnormS8Uint),
      (.depth32Stencil8, .d32SfloatS8Uint), (.stencil8, .s8Uint)]
  keys_nodup := by decide
  values_nodup := by decide

/-- `ToVulkan` -/
def Format.toVulkan? (format : Format) : Option VkFormat := vulkanFormats.at? format

/-- `none` if `FromVulkan` throws. -/
def fromVulkan? (format : VkFormat) : Option Format := vulkanFormats.inverseAt? format

/-- There is an entry for each format. -/
theorem isSome_toVulkan (format : Format) : format.toVulkan?.isSome := by
  cases format <;> rfl

theorem fromVulkan_eq_some_iff {format : Format} {vkFormat : VkFormat} :
    fromVulkan? vkFormat = some format ↔ format.toVulkan? = some vkFormat :=
  inverseAt?_eq_some_iff

end Teide
