import WebCompat.Knowledge.Descriptor

/-!
# Curated descriptors

Descriptors of vendor-prefixed and long-deprecated APIs, which datasets omit or
list without saying what to use instead.
-/

namespace WebCompat
namespace Knowledge
namespace Curated

def deprecated (suggestion browserSupport description api : String) : Descriptor where
  api := api
  status := .deprecated
  description := description
  suggestion := suggestion
  browserSupport := browserSupport
  featureId := none

def clipboard : List Descriptor :=
  ["document.execCommand"].map <| deprecated
    "Use the Clipboard API (navigator.clipboard)"
    "Use navigator.clipboard instead"
    "Deprecated and unreliable API for clipboard operations"

def animation : List Descriptor :=
  ["webkitRequestAnimationFrame", "mozRequestAnimationFrame"].map <| deprecated
    "Use requestAnimationFrame"
    "Use standard requestAnimationFrame"
    "Vendor-prefixed API no longer needed"

def media : List Descriptor :=
  ["webkitGetUserMedia", "navigator.webkitGetUserMedia", "navigator.mozGetUserMedia"].map <|
    deprecated
      "Use navigator.mediaDevices.getUserMedia"
      "Use modern promise-based getUserMedia"
      "Legacy getUserMedia API"

def constructors : List Descriptor := [
  deprecated
    "Use URL"
    "Use standard URL constructor"
    "Vendor-prefixed URL constructor"
    "webkitURL",
  deprecated
    "Use AudioContext"
    "Use standard AudioContext"
    "Vendor-prefixed AudioContext"
    "webkitAudioContext"]

def dialogs : List Descriptor :=
  ["showModalDialog", "window.showModalDialog"].map <| deprecated
    "Use the <dialog> element and HTMLDialogElement.showModal()"
    "Removed from modern browsers"
    "Legacy modal dialog API"

def descriptors : List Descriptor :=
  clipboard ++ animation ++ media ++ constructors ++ dialogs

end Curated
end Knowledge
end WebCompat
