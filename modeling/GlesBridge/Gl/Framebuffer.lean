import Mathlib.Logic.Function.Basic
import GlesBridge.Gl.State

namespace GlesBridge.Gl

/-! The framebuffers of a context of GL, with what is attached to them. -/

def glColorAttachment0 : UInt32 := 0x8CE0
def glDepthAttachment : UInt32 := 0x8D00
def glStencilAttachment : UInt32 := 0x8D20
def glDepthStencilAttachment : UInt32 := 0x821A

/-- `object` tells the textures apart that have the same name one after another. -/
structure Texture where
  name : UInt32
  object : Nat
deriving DecidableEq, Repr

inductive Image where
  | none
  | texture2D (textarget : UInt32) (texture : Texture) (level : Int32)
  | layer (texture : Texture) (level layer : Int32)
  | layered (texture : Texture) (level : Int32)
  | renderbuffer (name : UInt32)
deriving DecidableEq, Repr

namespace Image

/-- The texture with the name 0 is none. -/
def ofTexture (objects : UInt32 → Nat) (texture : UInt32) (image : Texture → Image) : Image :=
  if texture = 0 then .none else image ⟨texture, objects texture⟩

def isOfTexture (objects : UInt32 → Nat) (names : List UInt32) : Image → Bool
  | .texture2D _ texture _ | .layer texture _ _ | .layered texture _ =>
      names.contains texture.name && texture.object == objects texture.name
  | .none | .renderbuffer _ => false

def isOfRenderbuffer (names : List UInt32) : Image → Bool
  | .renderbuffer name => names.contains name
  | _ => false

end Image

/-- The names that are bound, and the image at each point of a framebuffer. -/
structure Framebuffers where
  draw : UInt32
  read : UInt32
  attachments : UInt32 → UInt32 → Image

/-- Depth and stencil together are two points. -/
def attachmentPoints (attachment : UInt32) : List UInt32 :=
  if attachment = glDepthStencilAttachment then [glDepthAttachment, glStencilAttachment]
  else [attachment]

namespace Framebuffers

def initial : Framebuffers where
  draw := 0
  read := 0
  attachments _ _ := .none

variable (framebuffers : Framebuffers)

def bound (target : UInt32) : UInt32 :=
  if target = glReadFramebuffer then framebuffers.read else framebuffers.draw

def glBindFramebuffer (target framebuffer : UInt32) : Framebuffers :=
  { framebuffers with
    draw :=
      if target = glFramebuffer ∨ target = glDrawFramebuffer then framebuffer
      else framebuffers.draw
    read :=
      if target = glFramebuffer ∨ target = glReadFramebuffer then framebuffer
      else framebuffers.read }

/-- Nothing is attached to the default framebuffer. -/
def attach (target attachment : UInt32) (image : Image) : Framebuffers :=
  let framebuffer := framebuffers.bound target
  if framebuffer = 0 then framebuffers
  else
    { framebuffers with
      attachments :=
        Function.update framebuffers.attachments framebuffer fun point =>
          if point ∈ attachmentPoints attachment then image
          else framebuffers.attachments framebuffer point }

/-- A framebuffer that is bound is replaced by the default one. -/
def glDeleteFramebuffers (names : List UInt32) : Framebuffers where
  draw := if names.contains framebuffers.draw then 0 else framebuffers.draw
  read := if names.contains framebuffers.read then 0 else framebuffers.read
  attachments framebuffer :=
    if names.contains framebuffer then fun _ => .none else framebuffers.attachments framebuffer

/-- An image that is deleted leaves the framebuffers that are bound. -/
def detach (gone : Image → Bool) : Framebuffers :=
  { framebuffers with
    attachments := fun framebuffer point =>
      let image := framebuffers.attachments framebuffer point
      if (framebuffer = framebuffers.draw ∨ framebuffer = framebuffers.read) ∧ gone image then .none
      else image }

/-- The image is at all points that the attachment stands for. -/
def Has (framebuffer attachment : UInt32) (image : Image) : Prop :=
  ∀ point ∈ attachmentPoints attachment, framebuffers.attachments framebuffer point = image

end Framebuffers

end GlesBridge.Gl
