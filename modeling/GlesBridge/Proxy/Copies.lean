import GlesBridge.Proxy.Mapping
import GlesBridge.Proxy.Sync

namespace GlesBridge.Proxy

open GlesBridge.Gl GlesBridge.Stub

/-! The handlers that copy into the real mappings or out of them, and what is
deferred when they do.
-/

/-- A copy at a pointer into a real mapping, with what there was at that moment:
the deferred waits, the fences that the client was told of, and those that the
GPU had passed. -/
structure Copy where
  pointer : UInt32
  size : Nat
  deferred : List DeferredSync
  told : List Nat
  signaled : List Nat

/-- What the driver answers about its buffers comes with the commands. The last
three are a record of the run: the fence that a handle names until its deletion,
the fences whose waits were put off, and the copies. -/
structure CopyProxy where
  tables : MapProxy
  sync : SyncProxy
  fenceOf : UInt32 → Option Nat
  told : List Nat
  copies : List Copy

/-- `real` is what `glMapBufferRange` returns, and `pbo` the binding that the
driver has for `GL_PIXEL_UNPACK_BUFFER`. -/
inductive CopyCommand where
  | sync (command : SyncCommand) (pointer : UInt32)
  | glMapBufferRange (target : UInt32) (offset length : Int64) (access buffer real : UInt32)
  | glUnmapBuffer (target id size : UInt32)
  | glFlushMappedBufferRange (target : UInt32) (offset length : Int32) (id : UInt32)
  | glDeleteBuffers (buffers : List UInt32)
  | glBindBufferRange (target index buffer : UInt32) (offset : Int64) (dataSize : UInt32)
  | glDrawArrays (vbo : Piggyback) (data2Size : UInt32)
  | glDrawElements (ebo : Piggyback) (dataSize : UInt32) (vbo : Piggyback) (data2Size : UInt32)
  | glDrawElementsBaseVertex (ebo : Piggyback) (dataSize : UInt32) (vbo : Piggyback)
      (data2Size : UInt32)
  | glTexSubImage2D (pixelMode dataOffset data2Size pbo : UInt32)
  | glTexSubImage3D (dataSize dataOffset data2Size pbo : UInt32)
  | glReadPixels

namespace CopyProxy

def zero : CopyProxy where
  tables := .zero
  sync := .zero
  fenceOf _ := none
  told := []
  copies := []

variable (proxy : CopyProxy)

def proxyResolveDeferredWaits (waits : List WaitResult) : Option (CopyProxy × List WaitResult) :=
  (proxy.sync.proxyResolveDeferredWaits waits).map fun (sync, waits) => ({ proxy with sync }, waits)

def memcpy (pointer : UInt32) (size : Nat) : CopyProxy :=
  { proxy with
    copies := ⟨pointer, size, proxy.sync.gDef, proxy.told, proxy.sync.gl.signaled⟩ :: proxy.copies }

/-- The loops over the table stop at the first mapping of the buffer, and copy
where the range lies inside it. -/
def copyRange (buffer : UInt32) (start stop : Int32) (size : Nat) : CopyProxy :=
  let found := mapIds.find? fun id =>
    (proxy.tables.maps id).realPtr != 0 && (proxy.tables.maps id).buffer == buffer
  match found with
  | none => proxy
  | some id =>
      let entry := proxy.tables.maps id
      if start < entry.offset ∨ entry.offset + entry.length < stop then proxy
      else proxy.memcpy (entry.realPtr + (start - entry.offset).toUInt32) size

def copyPiggyback (piggyback : Piggyback) (size : UInt32) : CopyProxy :=
  proxy.copyRange piggyback.buffer piggyback.offset.toInt32
    (piggyback.offset + piggyback.length).toInt32 size.toNat

/-! ## Handlers -/

/-- The table without what an earlier map of the buffer under the target has left. -/
def untracked (buffer target : UInt32) : MapProxy :=
  match proxy.tables.tracked buffer target with
  | some id => proxy.tables.clear id
  | none => proxy.tables

def hGlMapBufferRange (target : UInt32) (offset length : Int64) (access buffer real : UInt32)
    (waits : List WaitResult) : Option (CopyProxy × List WaitResult) :=
  let length := length.toInt32
  let proxy := { proxy with tables := proxy.untracked buffer target }
  if real = 0 then some (proxy, waits)
  else
    (if access &&& glMapReadBit ≠ 0 then
        (proxy.proxyResolveDeferredWaits waits).map fun (proxy, waits) =>
          (proxy.memcpy real length.toUInt32.toNat, waits)
      else some (proxy, waits)).map fun (proxy, waits) =>
        let tables := (proxy.tables.allocMap real length target buffer access offset.toInt32).1
        ({ proxy with tables }, waits)

/-- The copy in pieces is one copy here. -/
def hGlUnmapBuffer (id : MapId) (size : UInt32) (waits : List WaitResult) :
    Option (CopyProxy × List WaitResult) :=
  let entry := proxy.tables.maps id
  (if id ≠ 0 ∧ entry.realPtr ≠ 0 ∧ size ≠ 0 ∧ entry.buffer ≠ 0 ∧ size ≤ entry.length.toUInt32 ∧
        entry.access &&& glMapFlushExplicitBit = 0 then
      (proxy.proxyResolveDeferredWaits waits).map fun (proxy, waits) =>
        (if entry.access &&& glMapWriteBit ≠ 0 then proxy.memcpy entry.realPtr size.toNat
          else proxy, waits)
    else some (proxy, waits)).map fun (proxy, waits) =>
      (if id ≠ 0 then { proxy with tables := proxy.tables.clear id } else proxy, waits)

def hGlFlushMappedBufferRange (target : UInt32) (offset length : Int32) (id : MapId)
    (waits : List WaitResult) : Option (CopyProxy × List WaitResult) :=
  let entry := proxy.tables.maps id
  if id = 0 ∨ entry.realPtr = 0 then some (proxy, waits)
  else if entry.target ≠ target then some (proxy, waits)
  else if offset < 0 ∨ entry.length < offset + length then some (proxy, waits)
  else
    (proxy.proxyResolveDeferredWaits waits).map fun (proxy, waits) =>
      (proxy.memcpy (entry.realPtr + offset.toUInt32) length.toUInt32.toNat, waits)

def hGlBindBufferRange (buffer : UInt32) (offset : Int64) (dataSize : UInt32)
    (waits : List WaitResult) : Option (CopyProxy × List WaitResult) :=
  if dataSize ≠ 0 then
    (proxy.proxyResolveDeferredWaits waits).map fun (proxy, waits) =>
      (proxy.copyRange buffer offset.toInt32 (offset.toInt32 + dataSize.toInt32) dataSize.toNat,
        waits)
  else some (proxy, waits)

def hGlDrawArrays (vbo : Piggyback) (data2Size : UInt32) (waits : List WaitResult) :
    Option (CopyProxy × List WaitResult) :=
  if vbo.buffer ≠ 0 ∧ data2Size ≠ 0 then
    (proxy.proxyResolveDeferredWaits waits).map fun (proxy, waits) =>
      (proxy.copyPiggyback vbo data2Size, waits)
  else some (proxy, waits)

/-- The part that `h_glDrawElements` and `h_glDrawElementsBaseVertex` share. -/
def drawElements (ebo : Piggyback) (dataSize : UInt32) (vbo : Piggyback) (data2Size : UInt32)
    (waits : List WaitResult) : Option (CopyProxy × List WaitResult) :=
  let indices := ebo.buffer ≠ 0 ∧ dataSize ≠ 0
  let vertices := vbo.buffer ≠ 0 ∧ data2Size ≠ 0
  (if indices ∨ vertices then proxy.proxyResolveDeferredWaits waits
    else some (proxy, waits)).map fun (proxy, waits) =>
      let proxy := if indices then proxy.copyPiggyback ebo dataSize else proxy
      (if vertices then proxy.copyPiggyback vbo data2Size else proxy, waits)

def hGlDrawElements : Piggyback → UInt32 → Piggyback → UInt32 → List WaitResult →
    Option (CopyProxy × List WaitResult) := proxy.drawElements

def hGlDrawElementsBaseVertex : Piggyback → UInt32 → Piggyback → UInt32 → List WaitResult →
    Option (CopyProxy × List WaitResult) := proxy.drawElements

def applyUnpackPiggyback (offset data2Size pbo : UInt32) (waits : List WaitResult) :
    Option (CopyProxy × List WaitResult) :=
  if data2Size = 0 then some (proxy, waits)
  else
    (proxy.proxyResolveDeferredWaits waits).map fun (proxy, waits) =>
      (proxy.copyRange pbo offset.toInt32 (offset.toInt32 + data2Size.toInt32) data2Size.toNat,
        waits)

def hGlTexSubImage2D (pixelMode dataOffset data2Size pbo : UInt32) (waits : List WaitResult) :
    Option (CopyProxy × List WaitResult) :=
  if pixelMode = 1 then proxy.applyUnpackPiggyback dataOffset data2Size pbo waits
  else some (proxy, waits)

def hGlTexSubImage3D (dataSize dataOffset data2Size pbo : UInt32) (waits : List WaitResult) :
    Option (CopyProxy × List WaitResult) :=
  if dataSize = 0 then proxy.applyUnpackPiggyback dataOffset data2Size pbo waits
  else some (proxy, waits)

/-! ## Commands about fences -/

/-- What the record says after a command about fences. -/
def noteSync (command : SyncCommand) (pointer : UInt32) : CopyProxy :=
  match command with
  | .glFenceSync handle =>
      if syncId handle = 0 ∨ pointer = 0 then proxy
      else
        { proxy with
          fenceOf := Function.update proxy.fenceOf handle (some proxy.sync.gl.fences.made) }
  | .glClientWaitSync handle .defer =>
      { proxy with told := (proxy.fenceOf handle).toList ++ proxy.told }
  | .glDeleteSync handle => { proxy with fenceOf := Function.update proxy.fenceOf handle none }
  | _ => proxy

def handleSync (command : SyncCommand) (pointer : UInt32) (waits : List WaitResult) :
    Option CopyProxy :=
  (proxy.sync.handleSync command ⟨pointer, waits⟩).map fun sync =>
    { proxy.noteSync command pointer with sync }

/-- An id past the table has no defined outcome. -/
def mapIdOf (id : UInt32) : Option MapId :=
  if below : id.toNat < maxMaps then some ⟨id.toNat, below⟩ else none

def handleCopy (command : CopyCommand) (waits : List WaitResult) :
    Option (CopyProxy × List WaitResult) :=
  match command with
  | .sync command pointer => (proxy.handleSync command pointer waits).map fun proxy => (proxy, [])
  | .glMapBufferRange target offset length access buffer real =>
      proxy.hGlMapBufferRange target offset length access buffer real waits
  | .glUnmapBuffer _ id size => (mapIdOf id).bind fun id => proxy.hGlUnmapBuffer id size waits
  | .glFlushMappedBufferRange target offset length id =>
      -- An id past the table is refused here.
      match mapIdOf id with
      | some id => proxy.hGlFlushMappedBufferRange target offset length id waits
      | none => some (proxy, waits)
  | .glDeleteBuffers buffers =>
      some ({ proxy with tables := buffers.foldl MapProxy.deleteMaps proxy.tables }, waits)
  | .glBindBufferRange _ _ buffer offset dataSize =>
      proxy.hGlBindBufferRange buffer offset dataSize waits
  | .glDrawArrays vbo data2Size => proxy.hGlDrawArrays vbo data2Size waits
  | .glDrawElements ebo dataSize vbo data2Size =>
      proxy.hGlDrawElements ebo dataSize vbo data2Size waits
  | .glDrawElementsBaseVertex ebo dataSize vbo data2Size =>
      proxy.hGlDrawElementsBaseVertex ebo dataSize vbo data2Size waits
  | .glTexSubImage2D pixelMode dataOffset data2Size pbo =>
      proxy.hGlTexSubImage2D pixelMode dataOffset data2Size pbo waits
  | .glTexSubImage3D dataSize dataOffset data2Size pbo =>
      proxy.hGlTexSubImage3D dataSize dataOffset data2Size pbo waits
  | .glReadPixels => proxy.proxyResolveDeferredWaits waits

end CopyProxy

end GlesBridge.Proxy
