import LivePreview.Host

namespace LivePreview

/-! A host without a runtime: every transformer passes files through, programs are built but not
run, and the document keeps what it was last given. -/

structure Headless where
  /-- Whether the last request's host resolves files. -/
  resolvesFiles : Bool
  markup : Option Markup
deriving DecidableEq, Repr

namespace Headless

def fresh : Headless := ⟨false, none⟩

def backend : Backend Headless where
  configureFiles hasResolver host := ⟨{ host with resolvesFiles := hasResolver }, .ok (), []⟩
  resetModules host := ⟨host, .ok (), [.debug "headless backend keeps no module cache" []]⟩
  load name host := ⟨host, ⟨0, .ok (.passThrough name)⟩, []⟩
  build plan host := ⟨host, ⟨0, plan.program⟩, []⟩
  evaluate program host :=
    ⟨host, .ok (),
      [.debug "headless backend does not execute programs"
        [("modules", decimal program.files.length)]]⟩
  command _ host :=
    ⟨host, .failed (.evaluation "no program runtime is attached to this sandbox" none), []⟩

def document : Document Headless where
  replace markup host := ⟨{ host with markup := some markup }, .ok (), []⟩
  reload host := ⟨{ host with markup := none }, .ok (), []⟩
  height _ := .ok none
  loadDevTools kind host :=
    ⟨host, ⟨0, .ok ()⟩, [.debug "devtools are not available headless" [("kind", kind.label)]]⟩

@[simp] theorem height_document (host : Headless) : document.height host = .ok none := rfl

end Headless

end LivePreview
