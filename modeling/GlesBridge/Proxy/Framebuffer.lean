import GlesBridge.Gl.Framebuffer
import GlesBridge.Proxy.Egl
import GlesBridge.Systems.Machine

namespace GlesBridge.Proxy

open GlesBridge.Gl GlesBridge.Systems

/-! The cache of attachments: attaching a texture that a framebuffer already has
makes the driver validate the framebuffer again.
-/

abbrev fboCacheEntries : Nat := 64

/-- An entry with framebuffer 0 is unused. -/
structure FboAttachEntry where
  fbo : UInt32
  attachment : UInt32
  textarget : UInt32
  texture : UInt32
  level : Int32
deriving DecidableEq, Repr

/-- What the cache has about one context: `g_fbo_draw`, `g_fbo_read` and `g_fbo_cache`. -/
structure FboCache where
  draw : UInt32
  read : UInt32
  entries : Fin fboCacheEntries → FboAttachEntry

def isDepthOrStencil (attachment : UInt32) : Bool :=
  attachment == glDepthAttachment || attachment == glStencilAttachment ||
    attachment == glDepthStencilAttachment

/-- Depth, stencil and both together alias each other. -/
def fboAttachmentsAlias (first second : UInt32) : Bool :=
  first == second || (isDepthOrStencil first && isDepthOrStencil second)

namespace FboCache

def zero : FboCache where
  draw := 0
  read := 0
  entries _ := ⟨0, 0, 0, 0, 0⟩

variable (cache : FboCache)

def bound (target : UInt32) : UInt32 :=
  if target = glReadFramebuffer then cache.read else cache.draw

def bind (target framebuffer : UInt32) : FboCache :=
  { cache with
    draw :=
      if target = glFramebuffer ∨ target = glDrawFramebuffer then framebuffer else cache.draw
    read :=
      if target = glFramebuffer ∨ target = glReadFramebuffer then framebuffer else cache.read }

def clear (gone : FboAttachEntry → Bool) : FboCache :=
  { cache with
    entries := fun place =>
      let entry := cache.entries place
      if gone entry then { entry with fbo := 0 } else entry }

def put (place : Fin fboCacheEntries) (entry : FboAttachEntry) : FboCache :=
  { cache with entries := Function.update cache.entries place entry }

def invalidateAttachment (target attachment : UInt32) : FboCache :=
  cache.clear fun entry =>
    entry.fbo == cache.bound target && fboAttachmentsAlias entry.attachment attachment

/-- The first entry that is as asked for. -/
def find (good : FboAttachEntry → Bool) : Option (Fin fboCacheEntries) :=
  (List.finRange fboCacheEntries).find? fun place => good (cache.entries place)

/-- With true if the attachment is in place; the call then goes no further. A full
table is started over.
-/
def attach (target attachment textarget texture : UInt32) (level : Int32) : Bool × FboCache :=
  let fbo := cache.bound target
  let entry := ⟨fbo, attachment, textarget, texture, level⟩
  let cleared := cache.clear fun other =>
    other.fbo == fbo && other.attachment != attachment &&
      fboAttachmentsAlias other.attachment attachment
  if fbo = 0 then (false, cache)
  else
    match cache.find fun other => other.fbo == fbo && other.attachment == attachment with
    | some place =>
        let found := cache.entries place
        if found.textarget = textarget ∧ found.texture = texture ∧ found.level = level then
          (true, cache)
        else (false, cleared.put place entry)
    | none =>
        match cleared.find fun other => other.fbo == 0 with
        | some place => (false, cleared.put place entry)
        | none => (false, ({ cleared with entries := zero.entries } : FboCache).put 0 entry)

def forgetTextures (names : List UInt32) : FboCache :=
  cache.clear fun entry => entry.texture != 0 && names.contains entry.texture

/-- The binding of a framebuffer that is deleted reverts to 0. -/
def forgetFbos (names : List UInt32) : FboCache :=
  let cleared := cache.clear fun entry => entry.fbo != 0 && names.contains entry.fbo
  { cleared with
    draw := if names.contains cache.draw then 0 else cache.draw
    read := if names.contains cache.read then 0 else cache.read }

end FboCache

/-- With the share group of each context, and the texture of each name of a group. -/
structure FboProxy where
  egl : EglProxy Framebuffers
  gFboCache : ContextId → FboCache
  groups : UInt32 → Nat
  textures : Nat → UInt32 → Nat

/-- `group` is that of a context that is created; a call of `h_InvokeDynamic` is any
command of GL. -/
inductive FboCommand where
  | egl (call : EglCommand Framebuffers) (group : Nat)
  | glBindFramebuffer (target framebuffer : UInt32)
  | glFramebufferTexture2D (target attachment textarget texture : UInt32) (level : Int32)
  | glFramebufferRenderbuffer (target attachment renderbuffer : UInt32)
  | glFramebufferTextureLayer (target attachment texture : UInt32) (level layer : Int32)
  | glFramebufferTexture (target attachment texture : UInt32) (level : Int32)
  | glDeleteFramebuffers (names : List UInt32)
  | glDeleteTextures (names : List UInt32)
  | glDeleteRenderbuffers (names : List UInt32)

/-- A command with its `target_ctx`; `binds` is the driver's answer where that is
bound, and `accepts` the one to the command, were it asked. -/
structure FboInput where
  targetCtx : UInt32
  binds : Bool
  command : FboCommand
  accepts : Bool

namespace FboProxy

def zero : FboProxy where
  egl := .zero .initial
  gFboCache _ := .zero
  groups _ := 0
  textures _ _ := 0

variable (proxy : FboProxy)

/-- `fbo_cache_ctx` -/
def cacheId : ContextId := EglProxy.contextId proxy.egl.gCurrentCtx

def cache : FboCache := proxy.gFboCache proxy.cacheId

def remember (cache : FboCache) : FboProxy :=
  { proxy with gFboCache := Function.update proxy.gFboCache proxy.cacheId cache }

/-- The textures of the context that is current. -/
def objects : UInt32 → Nat := proxy.textures (proxy.groups proxy.egl.current)

def perform (accepts : Bool) (act : Framebuffers → Framebuffers) : FboProxy :=
  if accepts then { proxy with egl := proxy.egl.performGl act } else proxy

/-- A reused index must not inherit the state of the old context. -/
def hEgl (call : EglCommand Framebuffers) (group : Nat) : Option FboProxy :=
  (proxy.egl.handleEgl .initial call).map fun (egl, result) =>
    match call with
    | .eglCreateContext real =>
        { proxy with
          egl
          groups := Function.update proxy.groups real group
          gFboCache :=
            if result = 0 then proxy.gFboCache
            else Function.update proxy.gFboCache (EglProxy.contextId result) .zero }
    | _ => { proxy with egl }

def hGlBindFramebuffer (target framebuffer : UInt32) (accepts : Bool) : FboProxy :=
  (proxy.perform accepts (·.glBindFramebuffer target framebuffer)).remember
    (proxy.cache.bind target framebuffer)

/-- The attachment that a call of `glFramebufferTexture2D` asks for. -/
def image2D (textarget texture : UInt32) (level : Int32) : Image :=
  .ofTexture proxy.objects texture (.texture2D textarget · level)

def hGlFramebufferTexture2D (target attachment textarget texture : UInt32) (level : Int32)
    (accepts : Bool) : FboProxy :=
  match proxy.cache.attach target attachment textarget texture level with
  | (true, _) => proxy
  | (false, cache) =>
      (proxy.remember cache).perform accepts
        (·.attach target attachment (proxy.image2D textarget texture level))

/-- The attachments that are not kept. -/
def attachUncached (target attachment : UInt32) (image : Image) (accepts : Bool) : FboProxy :=
  (proxy.perform accepts (·.attach target attachment image)).remember
    (proxy.cache.invalidateAttachment target attachment)

def hGlFramebufferRenderbuffer (target attachment renderbuffer : UInt32) (accepts : Bool) :
    FboProxy :=
  proxy.attachUncached target attachment
    (if renderbuffer = 0 then .none else .renderbuffer renderbuffer) accepts

def hGlFramebufferTextureLayer (target attachment texture : UInt32) (level layer : Int32)
    (accepts : Bool) : FboProxy :=
  proxy.attachUncached target attachment
    (.ofTexture proxy.objects texture (.layer · level layer)) accepts

def hGlFramebufferTexture (target attachment texture : UInt32) (level : Int32) (accepts : Bool) :
    FboProxy :=
  proxy.attachUncached target attachment (.ofTexture proxy.objects texture (.layered · level)) accepts

def hGlDeleteFramebuffers (names : List UInt32) : FboProxy :=
  (proxy.remember (proxy.cache.forgetFbos names)).perform true (·.glDeleteFramebuffers names)

/-- A name that is deleted stands for another texture afterwards. -/
def renew (names : List UInt32) (objects : UInt32 → Nat) : UInt32 → Nat := fun name =>
  if names.contains name then objects name + 1 else objects name

/-- Textures are shared, so every context forgets them. -/
def hGlDeleteTextures (names : List UInt32) : FboProxy :=
  let group := proxy.groups proxy.egl.current
  let forgotten :=
    { proxy with gFboCache := fun id => (proxy.gFboCache id).forgetTextures names }
  if proxy.egl.current = 0 then forgotten
  else
    { forgotten.perform true (·.detach (Image.isOfTexture proxy.objects names)) with
      textures := Function.update proxy.textures group (renew names (proxy.textures group)) }

def hGlDeleteRenderbuffers (names : List UInt32) : FboProxy :=
  proxy.perform true (·.detach (Image.isOfRenderbuffer names))

def handle (command : FboCommand) (accepts : Bool) : Option FboProxy :=
  match command with
  | .egl call group => proxy.hEgl call group
  | .glBindFramebuffer target framebuffer =>
      some (proxy.hGlBindFramebuffer target framebuffer accepts)
  | .glFramebufferTexture2D target attachment textarget texture level =>
      some (proxy.hGlFramebufferTexture2D target attachment textarget texture level accepts)
  | .glFramebufferRenderbuffer target attachment renderbuffer =>
      some (proxy.hGlFramebufferRenderbuffer target attachment renderbuffer accepts)
  | .glFramebufferTextureLayer target attachment texture level layer =>
      some (proxy.hGlFramebufferTextureLayer target attachment texture level layer accepts)
  | .glFramebufferTexture target attachment texture level =>
      some (proxy.hGlFramebufferTexture target attachment texture level accepts)
  | .glDeleteFramebuffers names => some (proxy.hGlDeleteFramebuffers names)
  | .glDeleteTextures names => some (proxy.hGlDeleteTextures names)
  | .glDeleteRenderbuffers names => some (proxy.hGlDeleteRenderbuffers names)

/-- `eglMakeCurrent` binds its own target. -/
def bindTarget (input : FboInput) : FboProxy :=
  match input.command with
  | .egl (.eglMakeCurrent ..) _ => proxy
  | _ => { proxy with egl := proxy.egl.eglBindTargetCtx input.targetCtx input.binds }

end FboProxy

def fboMachine : Machine FboProxy FboInput where
  step proxy input := (proxy.bindTarget input).handle input.command input.accepts

end GlesBridge.Proxy
