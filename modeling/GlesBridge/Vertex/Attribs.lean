import GlesBridge.Vertex.System

namespace GlesBridge.Vertex

open GlesBridge.Gl GlesBridge.Shared GlesBridge.Stub GlesBridge.Proxy GlesBridge.Systems

/-! What the calls do to the attributes of the vertex arrays that each side has
on record. -/

/-- The attributes of a vertex array, or the global copy of one side. -/
abbrev Attribs := AttribIndex → AttribState

namespace Attribs

def zero : Attribs := fun _ => .zero

def assign (attribs : Attribs) (index : UInt32) (change : AttribState → AttribState) : Attribs :=
  fun slot => if attribName slot = index then change (attribs slot) else attribs slot

/-- The pointers of client arrays go to their places in the data area. -/
def place (attribs : Attribs) (patches : List (AttribIndex × UInt64)) : Attribs :=
  patches.foldl (fun attribs (index, pointer) =>
    attribs.assign (attribName index) fun attrib => { attrib with pointer }) attribs

end Attribs

/-- The assignment that a call makes to the members of an attribute. -/
def attribChange (vbo : UInt32) : VertexCall → Option (UInt32 × (AttribState → AttribState))
  | .glVertexAttribPointer index size type normalized stride pointer =>
      some (index, fun attrib =>
        { attrib with size, type, normalized, stride, pointer, integer := false, vbo })
  | .glVertexAttribIPointer index size type stride pointer =>
      some (index, fun attrib =>
        { attrib with size, type, normalized := 0, stride, pointer, vbo, integer := true })
  | .glEnableVertexAttribArray index => some (index, fun attrib => { attrib with enabled := true })
  | .glDisableVertexAttribArray index => some (index, fun attrib => { attrib with enabled := false })
  | .glVertexAttribDivisor index divisor => some (index, fun attrib => { attrib with divisor })
  | _ => none

/-- The attributes that a draw copies from the client's memory. -/
def ClientArray (attrib : AttribState) : Prop :=
  attrib.enabled = true ∧ attrib.vbo = 0 ∧ attrib.pointer ≠ 0

/-- The client arrays that a draw copies when it finds these attributes. -/
def drawCopies (attribs : Attribs) (element : UInt32) : VertexCall → List ClientCopy
  | .glDrawArrays first count _ => clientCopies attribs (sizeT first + sizeT count - 1)
  | .glDrawElements indices lastVertex _ =>
      if element = 0 ∧ indices ≠ 0 then clientCopies attribs (lastVertex.toUInt64 + 1) else []
  | _ => []

def drawPatches (attribs : Attribs) (element : UInt32) (call : VertexCall) :
    List (AttribIndex × UInt64) :=
  match call with
  | .glDrawArrays _ _ place | .glDrawElements _ _ place =>
      patches (drawCopies attribs element call) place
  | _ => []

/-! ## The records of the two sides -/

def vaoAttribs (state : GLContextState) (name : UInt32) : Attribs := (state.vao name).attribs

section

variable (records : Records) {index : UInt32} {change : AttribState → AttribState}

theorem assign_of_not_lt {attribs : Attribs} (above : ¬ index.toNat < maxVertexAttribs) :
    attribs.assign index change = attribs := by
  funext slot
  have apart : attribName slot ≠ index := fun equal =>
    above (attribName_eq.mp equal ▸ slot.isLt)
  simp [Attribs.assign, apart]

/-- A write to one attribute of the current vertex array, as all its attributes see it. -/
theorem setAttrib_vao {state : GLContextState} (value : Attribs)
    (below : index.toNat < maxVertexAttribs) (inside : state.currentVao.toNat < maxVaos)
    (name : UInt32) :
    (state.setAttrib ⟨index.toNat, below⟩ (value ⟨index.toNat, below⟩)).vao name =
      if name = state.currentVao then
        { state.vao name with
          attribs := fun slot =>
            if attribName slot = index then value slot else vaoAttribs state name slot }
      else state.vao name := by
  rw [GLContextState.setAttrib, GLContextState.vao_setVao inside]
  by_cases current : name = state.currentVao
  · subst current
    rw [if_pos rfl, if_pos rfl]
    refine congrArg (fun attribs => { state.vao state.currentVao with attribs })
      (funext fun slot => ?_)
    simp only [attribName_eq, Function.update_apply, Fin.ext_iff]
    split_ifs with same
    · rw [show slot = ⟨index.toNat, below⟩ from Fin.ext same]
    · rfl
  · rw [if_neg current, if_neg current]

theorem setAttribs_vao (inside : records.ctx.currentVao.toNat < maxVaos) (name : UInt32) :
    (records.setAttribs index change).ctx.vao name =
      if name = records.ctx.currentVao then
        { records.ctx.vao name with attribs := (vaoAttribs records.ctx name).assign index change }
      else records.ctx.vao name := by
  unfold Records.setAttribs
  by_cases below : index.toNat < maxVertexAttribs
  · rw [dif_pos below]
    refine (setAttrib_vao (fun slot => change (records.ctx.attrib slot)) below inside name).trans ?_
    split_ifs with current
    · subst current
      rfl
    · rfl
  · rw [dif_neg below, assign_of_not_lt below]
    exact (ite_self _).symm

/-- The whole of the global copy goes to the current vertex array. -/
theorem copyAttrib_vao (inside : records.ctx.currentVao.toNat < maxVaos) (name : UInt32) :
    (records.copyAttrib index change).ctx.vao name =
      if name = records.ctx.currentVao then
        { records.ctx.vao name with
          attribs := fun slot =>
            if attribName slot = index then change (records.attribState slot)
            else vaoAttribs records.ctx name slot }
      else records.ctx.vao name := by
  unfold Records.copyAttrib
  by_cases below : index.toNat < maxVertexAttribs
  · rw [dif_pos below]
    exact setAttrib_vao (fun slot => change (records.attribState slot)) below inside name
  · have apart (slot : AttribIndex) : attribName slot ≠ index := fun equal =>
      below (attribName_eq.mp equal ▸ slot.isLt)
    rw [dif_neg below]
    simp only [apart, if_false]
    exact (ite_self _).symm

theorem setAttribs_attribs (inside : records.ctx.currentVao.toNat < maxVaos) (name : UInt32) :
    vaoAttribs (records.setAttribs index change).ctx name =
      if name = records.ctx.currentVao then (vaoAttribs records.ctx name).assign index change
      else vaoAttribs records.ctx name := by
  rw [vaoAttribs, setAttribs_vao records inside]
  split_ifs <;> rfl

/-- What is copied is what the assignment makes of the record, when the members
that the call does not set agree. -/
theorem copyAttrib_attribs (inside : records.ctx.currentVao.toNat < maxVaos)
    (agree : ∀ slot, attribName slot = index →
      change (records.attribState slot) = change (records.ctx.attrib slot)) (name : UInt32) :
    vaoAttribs (records.copyAttrib index change).ctx name =
      if name = records.ctx.currentVao then (vaoAttribs records.ctx name).assign index change
      else vaoAttribs records.ctx name := by
  rw [vaoAttribs, copyAttrib_vao records inside]
  split_ifs with current
  · subst current
    funext slot
    simp only [Attribs.assign]
    split_ifs with named
    · exact agree slot named
    · rfl
  · rfl

end

theorem zeroVaos_attribs {state : GLContextState} {arrays : List UInt32}
    (inside : Generates arrays) (name : UInt32) :
    vaoAttribs (state.zeroVaos arrays) name =
      if name ∈ arrays then .zero else vaoAttribs state name := by
  simp only [vaoAttribs, GLContextState.vao_zeroVaos inside]
  split_ifs <;> rfl

theorem setEbo_attribs {state : GLContextState} (inside : state.currentVao.toNat < maxVaos)
    (buffer name : UInt32) :
    vaoAttribs (state.setVao state.currentVao
        { state.vao state.currentVao with ebo := buffer }) name = vaoAttribs state name := by
  simp only [vaoAttribs, GLContextState.vao_setVao inside]
  split_ifs with here
  · rw [here]
  · rfl

theorem place_vao (records : Records) (inside : records.ctx.currentVao.toNat < maxVaos)
    (patches : List (AttribIndex × UInt64)) (name : UInt32) :
    (patches.foldl (fun records (index, pointer) =>
        records.setAttribs (attribName index) fun attrib => { attrib with pointer })
        records).ctx.vao name =
      if name = records.ctx.currentVao then
        { records.ctx.vao name with attribs := (vaoAttribs records.ctx name).place patches }
      else records.ctx.vao name := by
  induction patches generalizing records with
  | nil => exact (ite_self _).symm
  | cons first rest ih =>
      have after : (records.setAttribs (attribName first.1) fun attrib =>
          { attrib with pointer := first.2 }).ctx.currentVao = records.ctx.currentVao :=
        Records.setAttribs_currentVao
      have one : (records.setAttribs (attribName first.1) fun attrib =>
          { attrib with pointer := first.2 }).ctx.vao name = _ := setAttribs_vao records inside name
      rw [List.foldl_cons, ih _ (by rw [after]; exact inside), after, vaoAttribs, one]
      split_ifs <;> rfl

/-- Only pointers are placed, and only where a patch says so. -/
theorem place_slot (attribs : Attribs) (patches : List (AttribIndex × UInt64)) (slot : AttribIndex) :
    attribs.place patches slot = attribs slot ∨
      (∃ pointer, attribs.place patches slot = { attribs slot with pointer }) ∧
        slot ∈ patches.map Prod.fst := by
  unfold Attribs.place
  induction patches generalizing attribs with
  | nil => exact .inl rfl
  | cons first rest ih =>
      rw [List.foldl_cons, List.map_cons, List.mem_cons]
      have once : attribs.assign (attribName first.1)
          (fun attrib => { attrib with pointer := first.2 }) slot =
            if slot = first.1 then { attribs slot with pointer := first.2 } else attribs slot := by
        simp only [Attribs.assign, attribName_injective.eq_iff]
      rcases ih (attribs.assign (attribName first.1) fun attrib =>
        { attrib with pointer := first.2 }) with same | ⟨⟨pointer, placed⟩, member⟩
      · rw [once] at same
        split_ifs at same with here
        · exact .inr ⟨⟨first.2, same⟩, .inl here⟩
        · exact .inl same
      · rw [once] at placed
        refine .inr ⟨⟨pointer, ?_⟩, .inr member⟩
        split_ifs at placed <;> exact placed

/-- A call that reaches the attributes of no vertex array in the stub. -/
def QuietCall (call : VertexCall) : Prop :=
  (∀ arrays, call ≠ .glGenVertexArrays arrays) ∧ (∀ array, call ≠ .glBindVertexArray array) ∧
    attribChange 0 call = none

section

variable {stub : StubMirrors} {current ctx : Ctx} {name : UInt32}

theorem glDeleteBuffers_attribs (buffers : List UInt32) :
    vaoAttribs ((stub.glDeleteBuffers current buffers).stubCtx ctx) name =
      vaoAttribs (stub.stubCtx ctx) name := by
  unfold StubMirrors.glDeleteBuffers
  induction buffers generalizing stub with
  | nil => rfl
  | cons buffer rest ih =>
      rw [List.foldl_cons, ih]
      unfold StubMirrors.stubGlStateInvalidateBuffer
      split_ifs
      · rfl
      · simp only [StubMirrors.bufrangeCacheInvalidateBuffer, vaoAttribs, GLContextState.vao,
          invalidateEbo]
        split_ifs <;> rfl

theorem stub_gen {arrays : List UInt32} (inside : Generates arrays) :
    vaoAttribs ((stub.vertexCall current (.glGenVertexArrays arrays)).1.stubCtx ctx) name =
      if ctx = current ∧ name ∈ arrays then .zero else vaoAttribs (stub.stubCtx ctx) name := by
  simp only [StubMirrors.vertexCall, StubMirrors.glGenVertexArrays, StubMirrors.setStubCtx_stubCtx]
  by_cases here : ctx = current
  · simp [here, zeroVaos_attribs inside]
  · simp [here]

theorem stub_bind {array : UInt32} :
    vaoAttribs ((stub.vertexCall current (.glBindVertexArray array)).1.stubCtx ctx) name =
      if stub.Resets current ctx then .zero else vaoAttribs (stub.stubCtx ctx) name := by
  have consulted : vaoAttribs ((stub.shadowStateForCurrentCtx current).stubCtx ctx) name =
      if stub.Resets current ctx then .zero else vaoAttribs (stub.stubCtx ctx) name := by
    rw [StubMirrors.stubCtx_consulted]
    split_ifs
    · simp only [vaoAttribs, GLContextState.vao_zero]
      rfl
    · rfl
  rw [← consulted]
  simp only [StubMirrors.vertexCall, StubMirrors.glBindVertexArray_eq]
  split_ifs
  · rfl
  · rw [StubMirrors.setStubCtx_stubCtx]
    split_ifs with here
    · rw [here]
      rfl
    · rfl

theorem stub_quiet {call : VertexCall} (quiet : QuietCall call)
    (inside : (stub.stubCtx current).currentVao.toNat < maxVaos) :
    vaoAttribs ((stub.vertexCall current call).1.stubCtx ctx) name =
      vaoAttribs (stub.stubCtx ctx) name := by
  obtain ⟨notGen, notBind, none⟩ := quiet
  cases call with
  | glGenVertexArrays arrays => exact absurd rfl (notGen arrays)
  | glBindVertexArray array => exact absurd rfl (notBind array)
  | glDeleteVertexArrays arrays =>
      simp only [StubMirrors.vertexCall, StubMirrors.glDeleteVertexArrays, StubMirrors.stateCall,
        StubMirrors.shadowInvalidateAll_stubCtx]
  | glBindBuffer target buffer =>
      simp only [StubMirrors.vertexCall, StubMirrors.glBindBuffer, StubMirrors.setBoundBuffer]
      split_ifs
      · rfl
      · rw [StubMirrors.setStubCtx_stubCtx]
        split_ifs with here
        · rw [here, setEbo_attribs inside]
        · rfl
      · split <;> rfl
  | glBindBufferRange target index buffer offset size mapped =>
      simp only [StubMirrors.vertexCall, StubMirrors.glBindBufferRange]
      split_ifs <;> rfl
  | glDeleteBuffers buffers => exact glDeleteBuffers_attribs buffers
  | glDrawElements indices lastVertex place =>
      simp only [StubMirrors.vertexCall, StubMirrors.glDrawElements]
      split_ifs <;> rfl
  | glBindBufferBase | glDrawArrays => rfl
  | _ => cases none

/-- The calls that copy the whole of the global attribute to the vertex array. -/
def CopiesWhole : VertexCall → Prop
  | .glVertexAttribPointer .. | .glVertexAttribIPointer .. => True
  | _ => False

/-- The members that no pointer call sets. -/
def SameRest (attrib other : AttribState) : Prop :=
  attrib.enabled = other.enabled ∧ attrib.divisor = other.divisor

theorem change_of_sameRest {call : VertexCall} {vbo index : UInt32}
    {change : AttribState → AttribState} {attrib other : AttribState} (copies : CopiesWhole call)
    (changes : attribChange vbo call = some (index, change)) (rest : SameRest attrib other) :
    change attrib = change other := by
  cases call with
  | glVertexAttribPointer | glVertexAttribIPointer =>
      cases changes
      simp only [rest.1, rest.2]
  | _ => exact copies.elim

theorem stub_attr {call : VertexCall} {index : UInt32} {change : AttribState → AttribState}
    (changes : attribChange (stub.stubGlState current).arrayBuffer call = some (index, change))
    (inside : (stub.stubCtx current).currentVao.toNat < maxVaos)
    (agree : CopiesWhole call → ∀ slot, attribName slot = index →
      SameRest (stub.attribStubState slot) ((stub.stubCtx current).attrib slot)) :
    vaoAttribs ((stub.vertexCall current call).1.stubCtx ctx) name =
      if ctx = current ∧ name = (stub.stubCtx current).currentVao then
        (vaoAttribs (stub.stubCtx ctx) name).assign index change
      else vaoAttribs (stub.stubCtx ctx) name := by
  have same (copies : CopiesWhole call) (slot : AttribIndex) (named : attribName slot = index) :
      change (stub.attribStubState slot) = change ((stub.stubCtx current).attrib slot) :=
    change_of_sameRest copies changes (agree copies slot named)
  by_cases here : ctx = current
  · subst here
    cases call with
    | glVertexAttribPointer | glVertexAttribIPointer =>
        cases changes
        simp only [StubMirrors.vertexCall, StubMirrors.glVertexAttribPointer,
          StubMirrors.glVertexAttribIPointer, StubMirrors.setRecords_stubCtx, if_true, true_and]
        exact copyAttrib_attribs (stub.records ctx) inside (same trivial) name
    | glEnableVertexAttribArray | glDisableVertexAttribArray | glVertexAttribDivisor =>
        cases changes
        simp only [StubMirrors.vertexCall, StubMirrors.glEnableVertexAttribArray,
          StubMirrors.glDisableVertexAttribArray, StubMirrors.glVertexAttribDivisor,
          StubMirrors.setRecords_stubCtx, if_true, true_and]
        exact setAttribs_attribs (stub.records ctx) inside name
    | _ => cases changes
  · cases call with
    | glVertexAttribPointer | glVertexAttribIPointer | glEnableVertexAttribArray
    | glDisableVertexAttribArray | glVertexAttribDivisor =>
        simp [StubMirrors.vertexCall, StubMirrors.glVertexAttribPointer,
          StubMirrors.glVertexAttribIPointer, StubMirrors.glEnableVertexAttribArray,
          StubMirrors.glDisableVertexAttribArray, StubMirrors.glVertexAttribDivisor, here]
    | _ => cases changes

end

section

variable {driver : VertexDriver} {group : Ctx → Nat} {stub : StubMirrors} {proxy : ProxyState}
  {current ctx : Ctx} {name : UInt32} {command : VertexCommand}

theorem proxy_gen {arrays : List UInt32} (inside : Generates arrays) :
    vaoAttribs ((proxy.handle driver group current (.glGenVertexArrays arrays)).proxyCtx ctx) name =
      if ctx = current ∧ name ∈ arrays then .zero else vaoAttribs (proxy.proxyCtx ctx) name := by
  by_cases here : ctx = current
  · simp [ProxyState.handle, ProxyState.hGlGenVertexArrays, here, zeroVaos_attribs inside]
  · simp [ProxyState.handle, ProxyState.hGlGenVertexArrays, here]

/-- A bind wipes the record that is not yet marked. -/
theorem proxy_bind {array : UInt32} (inside : array.toNat < maxVaos) :
    vaoAttribs ((proxy.handle driver group current (.glBindVertexArray array)).proxyCtx ctx) name =
      if ctx = current ∧ name = array ∧ ((proxy.proxyCtx current).vao array).initialised = false then
        .zero
      else vaoAttribs (proxy.proxyCtx ctx) name := by
  by_cases here : ctx = current
  · subst here
    simp only [ProxyState.handle, ProxyState.hGlBindVertexArray, ProxyState.setProxyCtx_proxyCtx,
      if_true, vaoAttribs, GLContextState.vao_setVao inside, ProxyState.boundRecord, true_and]
    by_cases same : name = array
    · subst same
      cases marked : ((proxy.proxyCtx ctx).vao name).initialised with
      | true => simp
      | false =>
          simp
          rfl
    · simp only [same, false_and, if_false]
      rfl
  · simp [ProxyState.handle, ProxyState.hGlBindVertexArray, here]

theorem proxy_attr {call : VertexCall} {index : UInt32} {change : AttribState → AttribState}
    (changes : attribChange (stub.stubGlState current).arrayBuffer call = some (index, change))
    (sent : (stub.vertexCall current call).2 = [command])
    (inside : (proxy.proxyCtx current).currentVao.toNat < maxVaos)
    (agree : CopiesWhole call → ∀ slot, attribName slot = index →
      SameRest (proxy.attribProxyState slot) ((proxy.proxyCtx current).attrib slot)) :
    vaoAttribs ((proxy.handle driver group current command).proxyCtx ctx) name =
      if ctx = current ∧ name = (proxy.proxyCtx current).currentVao then
        (vaoAttribs (proxy.proxyCtx ctx) name).assign index change
      else vaoAttribs (proxy.proxyCtx ctx) name := by
  have same (copies : CopiesWhole call) (slot : AttribIndex) (named : attribName slot = index) :
      change (proxy.attribProxyState slot) = change ((proxy.proxyCtx current).attrib slot) :=
    change_of_sameRest copies changes (agree copies slot named)
  by_cases here : ctx = current
  · subst here
    cases call with
    | glVertexAttribPointer | glVertexAttribIPointer =>
        cases changes
        cases sent
        simp only [ProxyState.handle, ProxyState.hGlVertexAttribPointer,
          ProxyState.hGlVertexAttribIPointer, ProxyState.gl_proxyCtx,
          ProxyState.setRecords_proxyCtx, if_true, true_and]
        exact copyAttrib_attribs (proxy.records ctx) inside (same trivial) name
    | glEnableVertexAttribArray | glDisableVertexAttribArray | glVertexAttribDivisor =>
        cases changes
        cases sent
        simp only [ProxyState.handle, ProxyState.hGlEnableVertexAttribArray,
          ProxyState.hGlDisableVertexAttribArray, ProxyState.hGlVertexAttribDivisor,
          ProxyState.gl_proxyCtx, ProxyState.setRecords_proxyCtx, if_true, true_and]
        exact setAttribs_attribs (proxy.records ctx) inside name
    | _ => cases changes
  · cases call with
    | glVertexAttribPointer | glVertexAttribIPointer | glEnableVertexAttribArray
    | glDisableVertexAttribArray | glVertexAttribDivisor =>
        cases sent
        simp [ProxyState.handle, ProxyState.hGlVertexAttribPointer,
          ProxyState.hGlVertexAttribIPointer, ProxyState.hGlEnableVertexAttribArray,
          ProxyState.hGlDisableVertexAttribArray, ProxyState.hGlVertexAttribDivisor, here]
    | _ => cases changes

theorem patch_vao (inside : (proxy.proxyCtx current).currentVao.toNat < maxVaos)
    (patches : List (AttribIndex × UInt64)) :
    ((proxy.patch current patches).proxyCtx ctx).vao name =
      if ctx = current ∧ name = (proxy.proxyCtx current).currentVao then
        { (proxy.proxyCtx ctx).vao name with
          attribs := (vaoAttribs (proxy.proxyCtx ctx) name).place patches }
      else (proxy.proxyCtx ctx).vao name := by
  by_cases here : ctx = current
  · subst here
    simp only [ProxyState.patch, ProxyState.setRecords_proxyCtx, if_true, true_and]
    exact place_vao (proxy.records ctx) inside patches name
  · simp [ProxyState.patch, here]

theorem patch_nil : proxy.patch current [] = proxy := by
  simp [ProxyState.patch, ProxyState.setRecords, ProxyState.setProxyCtx, ProxyState.records]

theorem patch_attribs (inside : (proxy.proxyCtx current).currentVao.toNat < maxVaos)
    (patches : List (AttribIndex × UInt64)) :
    vaoAttribs ((proxy.patch current patches).proxyCtx ctx) name =
      if ctx = current ∧ name = (proxy.proxyCtx current).currentVao then
        (vaoAttribs (proxy.proxyCtx ctx) name).place patches
      else vaoAttribs (proxy.proxyCtx ctx) name := by
  rw [vaoAttribs, patch_vao inside]
  split_ifs <;> rfl

/-- What a quiet call does to the proxy's records is to place the client arrays of a draw. -/
theorem proxy_quiet {call : VertexCall} (quiet : QuietCall call)
    (inside : (proxy.proxyCtx current).currentVao.toNat < maxVaos)
    (sent : (stub.vertexCall current call).2 = [command]) :
    vaoAttribs ((proxy.handle driver group current command).proxyCtx ctx) name =
      if ctx = current ∧ name = (proxy.proxyCtx current).currentVao then
        (vaoAttribs (proxy.proxyCtx ctx) name).place
          (drawPatches stub.attribStubState (stub.boundBuffer current glElementArrayBuffer) call)
      else vaoAttribs (proxy.proxyCtx ctx) name := by
  obtain ⟨notGen, notBind, none⟩ := quiet
  cases call with
  | glGenVertexArrays arrays => exact absurd rfl (notGen arrays)
  | glBindVertexArray array => exact absurd rfl (notBind array)
  | glDrawArrays first count place =>
      cases sent
      exact patch_attribs inside _
  | glDrawElements indices lastVertex place =>
      simp only [StubMirrors.vertexCall, StubMirrors.glDrawElements] at sent
      by_cases bound : stub.boundBuffer current glElementArrayBuffer = 0
      · simp only [bound, ne_eq, not_true_eq_false, if_false, List.cons.injEq, and_true] at sent
        subst sent
        simp only [ProxyState.handle, ProxyState.hGlDrawElements, if_true, ProxyState.gl_proxyCtx,
          drawPatches, drawCopies, bound, true_and]
        exact patch_attribs inside _
      · simp only [ne_eq, bound, not_false_eq_true, if_true, List.cons.injEq, and_true] at sent
        subst sent
        simp only [ProxyState.handle, ProxyState.hGlDrawElements, drawPatches, drawCopies, bound,
          false_and, if_false]
        exact patch_attribs inside _
  | glBindBuffer target buffer =>
      refine Eq.trans ?_ (ite_self (vaoAttribs (proxy.proxyCtx ctx) name)).symm
      simp only [StubMirrors.vertexCall, StubMirrors.glBindBuffer] at sent
      split_ifs at sent
      cases sent
      simp only [ProxyState.handle, ProxyState.hGlBindBuffer]
      split_ifs
      · rw [ProxyState.gl_proxyCtx, ProxyState.setProxyCtx_proxyCtx]
        split_ifs with here
        · rw [here, setEbo_attribs inside]
        · rfl
      · rfl
  | glBindBufferRange target index buffer offset size mapped =>
      refine Eq.trans ?_ (ite_self (vaoAttribs (proxy.proxyCtx ctx) name)).symm
      simp only [StubMirrors.vertexCall, StubMirrors.glBindBufferRange] at sent
      split_ifs at sent <;> cases sent <;> rfl
  | glDeleteVertexArrays | glBindBufferBase | glDeleteBuffers =>
      cases sent
      exact (ite_self _).symm
  | _ => cases none

end

end GlesBridge.Vertex
