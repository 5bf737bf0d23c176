import GlesBridge.Ring.Reply
import GlesBridge.Ring.Wake
import GlesBridge.Ring.Response
import GlesBridge.Ring.Swap
import GlesBridge.Ring.Arena
import GlesBridge.Ring.ArenaProgress
import GlesBridge.Ring.LateRead
import GlesBridge.Init.Lazy
import GlesBridge.Stub.EntryPoint
import GlesBridge.Stub.Balance
import GlesBridge.Gl.State
import GlesBridge.Shared.Context
import GlesBridge.Stub.Mirror
import GlesBridge.Systems.Machine
import GlesBridge.Stub.Shadow
import GlesBridge.Stub.Agreement
import GlesBridge.Stub.Elision
import GlesBridge.Stub.Deletion
import GlesBridge.Gl.VertexArray
import GlesBridge.Stub.Vertex
import GlesBridge.Proxy.Vertex
import GlesBridge.Systems.Pipeline
import GlesBridge.Vertex.System
import GlesBridge.Vertex.Binding
import GlesBridge.Vertex.Attribs
import GlesBridge.Vertex.Isolation
import GlesBridge.Vertex.Restore
import GlesBridge.Vertex.Rebind
import GlesBridge.Vertex.ProxyRecords
import GlesBridge.Vertex.BufferNames
import GlesBridge.Vertex.BufferMirror
import GlesBridge.Stub.LazyReset
import GlesBridge.Stub.ContextLife
import GlesBridge.Gl.Mapping
import GlesBridge.Stub.Mapping
import GlesBridge.Proxy.Mapping
import GlesBridge.Mapping.Tables
import GlesBridge.Mapping.Agreement
import GlesBridge.Systems.Resource
import GlesBridge.Gl.Sync
import GlesBridge.Proxy.Sync
import GlesBridge.Stub.Sync
import GlesBridge.Sync.Handlers
import GlesBridge.Sync.Handle
import GlesBridge.Sync.Ownership
import GlesBridge.Sync.System
import GlesBridge.Sync.FastPath
import GlesBridge.Sync.Steady
import GlesBridge.Sync.Signaled
import GlesBridge.Proxy.Copies
import GlesBridge.Sync.Barrier
import GlesBridge.Proxy.Egl
import GlesBridge.Stub.Egl
import GlesBridge.Egl.System
import GlesBridge.Egl.Current
import GlesBridge.Gl.Framebuffer
import GlesBridge.Proxy.Framebuffer
import GlesBridge.Framebuffer.Cache
import GlesBridge.Framebuffer.Attach
import GlesBridge.Stub.Unpack
import GlesBridge.Stub.Upload
import GlesBridge.Proxy.Upload
import GlesBridge.Upload.Source
import GlesBridge.Data.Strided
import GlesBridge.Gl.PixelStore
import GlesBridge.Upload.Addressing
import GlesBridge.Upload.Piggyback
import GlesBridge.Stub.Draw
import GlesBridge.Proxy.Draw
import GlesBridge.Draw.Arena
import GlesBridge.Draw.Indices
import GlesBridge.Draw.Vertices
import GlesBridge.Gl.VertexFetch
import GlesBridge.Draw.Arrays
import GlesBridge.Data.Index
import GlesBridge.Systems.Checked
import GlesBridge.Data.Handles
import GlesBridge.Proxy.Handles
import GlesBridge.Proxy.Wayland
import GlesBridge.Handles.Rules
import GlesBridge.Handles.Range
import GlesBridge.Handles.Naming
import GlesBridge.Egl.Repeat
import GlesBridge.Vertex.Bounds
import GlesBridge.Data.Cursor
import GlesBridge.Data.LittleEndian
import GlesBridge.Proxy.Decoding
import GlesBridge.Args.Order
import GlesBridge.Args.Bounds
import GlesBridge.Args.Results
import GlesBridge.Proxy.Events
import GlesBridge.Wayland.Keys
import GlesBridge.Proxy.WlThread
import GlesBridge.Wayland.Readiness
import GlesBridge.Systems.Reading
import GlesBridge.Wayland.Area
import GlesBridge.Wayland.Replies
import GlesBridge.Stub.Marshal
import GlesBridge.Wayland.Marshal
import GlesBridge.Stub.Listeners
import GlesBridge.Wayland.Styles
import GlesBridge.Stub.Callbacks
import GlesBridge.Wayland.Callbacks
import GlesBridge.Systems.Sweeps
import GlesBridge.Stub.Seats
import GlesBridge.Wayland.Seats
import GlesBridge.Stub.Destroy
import GlesBridge.Wayland.Bridge
import GlesBridge.Wayland.Surfaces
import GlesBridge.Stub.StateEvents
import GlesBridge.Wayland.StateEvents
import GlesBridge.Systems.Owners
import GlesBridge.Handles.Kept
import GlesBridge.Wayland.Displays
import GlesBridge.Mapping.Count
import GlesBridge.Mapping.Failure
import GlesBridge.Sync.Alloc
import GlesBridge.Mapping.WriteBack
import GlesBridge.Mapping.Flush
import GlesBridge.Systems.Terminated
import GlesBridge.Proxy.Strings
import GlesBridge.Strings.Codec
import GlesBridge.Strings.Shader
import GlesBridge.Strings.Queries
import GlesBridge.Stub.Wrappers
import GlesBridge.Wayland.Wrappers
import GlesBridge.Proxy.BufferRange
import GlesBridge.Mapping.BufferRange
import GlesBridge.Upload.Exact
import GlesBridge.Proxy.ReadPixels
import GlesBridge.Upload.ReadPixels
import GlesBridge.Egl.Unpack
import GlesBridge.Data.Probe
import GlesBridge.Stub.Locations
import GlesBridge.Strings.Locations
import GlesBridge.Stub.QueryString
import GlesBridge.Egl.QueryString
import GlesBridge.Egl.Initialize
import GlesBridge.Egl.Refusal
import GlesBridge.Egl.SurfaceQuery
import GlesBridge.Egl.Values
import GlesBridge.Wayland.Batch
import GlesBridge.Args.Outputs
import GlesBridge.Shared.Config
import GlesBridge.Config.Lines
import GlesBridge.Config.Geometry
import GlesBridge.Shared.Log
import GlesBridge.Logging.Bounds
import GlesBridge.Stub.WlArena
import GlesBridge.Wayland.Arena
import GlesBridge.Draw.Bounds
import GlesBridge.Data.Overlay
import GlesBridge.Stub.SlotFields
import GlesBridge.Proxy.SlotFields
import GlesBridge.Args.Recycled
import GlesBridge.Data.Conversion
import GlesBridge.Stub.Generated
import GlesBridge.Proxy.Generated
import GlesBridge.Egl.Extensions
import GlesBridge.Ring.Progress
import GlesBridge.Wayland.Channel
import GlesBridge.Wayland.Calls
import GlesBridge.Ring.Uploads
import GlesBridge.Draw.Mapped
import GlesBridge.Egl.Windows
import GlesBridge.Ring.Linear
