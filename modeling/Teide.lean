import Teide.Lib.Runs
import Teide.Lib.ListSet
import Teide.Lib.ReorderBuffer
import Teide.Lib.Timeline
import Teide.Lib.Prefixes
import Teide.Lib.Words
import Teide.Lib.Semaphores
import Teide.Lib.Hazards
import Teide.Lib.Caches
import Teide.Lib.StaticMap
import Teide.GpuExecutor.Basic
import Teide.GpuExecutor.Invariant
import Teide.GpuExecutor.Order
import Teide.GpuExecutor.Handlers
import Teide.ThreadMap.Basic
import Teide.Vkex.Join
import Teide.Queue.Basic
import Teide.Queue.Invariant
import Teide.Queue.Completion
import Teide.Queue.Order
import Teide.Queue.Wait
import Teide.Queue.Shutdown
import Teide.Listen.Basic
import Teide.Listen.Owners
import Teide.Listen.Invariant
import Teide.Listen.Delivery
import Teide.ResourceMap.Basic
import Teide.ResourceMap.RefCount
import Teide.Framebuffer.Cache
import Teide.CpuExecutor.Basic
import Teide.CpuExecutor.Invariant
import Teide.CpuExecutor.Wait
import Teide.CpuExecutor.Failures
import Teide.CpuExecutor.Shutdown
import Teide.Scheduler.Basic
import Teide.Scheduler.Failures
import Teide.ShaderData.Basic
import Teide.ShaderData.Size
import Teide.ShaderCompiler.Basic
import Teide.ShaderCompiler.Std430
import Teide.ShaderData.Packing
import Teide.GeoLib.Matrix
import Teide.GeoLib.Transforms
import Teide.ShaderCompiler.Prelude
import Teide.ShaderCompiler.Reflection
import Teide.ShaderCompiler.UniformBlocks
import Teide.ShaderCompiler.Varyings
import Teide.ParameterBlock.Layout
import Teide.DescriptorPool.Basic
import Teide.DescriptorPool.Invariant
import Teide.ParameterBlock.Bindings
import Teide.ParameterBlock.Environment
import Teide.Renderer.Basic
import Teide.Renderer.Frames
import Teide.GpuExecutor.CommandPools
import Teide.GpuExecutor.CommandBuffer
import Teide.Renderer.RenderList
import Teide.Renderer.ViewParameters
import Teide.Surface.Basic
import Teide.Surface.Invariant
import Teide.Surface.Acquire
import Teide.Surface.Present
import Teide.Surface.Render
import Teide.Vulkan.Basic
import Teide.Vulkan.Access
import Teide.Vulkan.PhysicalDevice
import Teide.ParameterBlock.Descriptors
import Teide.Graph.Basic
import Teide.Framebuffer.Failures
import Teide.Graph.Record
import Teide.Graph.Changes
import Teide.Graph.WellFormed
import Teide.Graph.Construct
import Teide.Graph.Numbering
import Teide.Graph.Process
import Teide.Graph.Rebuild
import Teide.Graph.Stored
import Teide.Graph.Unique
import Teide.Graph.Transitions
import Teide.Graph.Usage
import Teide.Graph.LeaveOut
import Teide.Graph.Discard
import Teide.Graph.Layout
import Teide.Graph.Barriers
import Teide.Graph.Transfer
import Teide.Graph.RoundTrip
import Teide.Texture.Basic
import Teide.Texture.Layouts
import Teide.Graph.Sampled
import Teide.Texture.Download
import Teide.Texture.Mipmaps
import Teide.Graph.Execute
import Teide.Graph.Images
import Teide.Graph.Dataflow
import Teide.Graph.Hazards
import Teide.Texture.Hazards
import Teide.Queue.Progress
import Teide.GpuExecutor.Pipeline
import Teide.ParameterBlock.Lifetime
import Teide.Renderer.RenderToTexture
import Teide.Vulkan.Formats
import Teide.Surface.Swapchain
