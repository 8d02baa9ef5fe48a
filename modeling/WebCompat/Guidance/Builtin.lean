import WebCompat.Issue.Advice

/-!
# Built-in advice

Advice for the curated APIs, and general advice for all others, for use where
no provider of suggestions can be asked.
-/

namespace WebCompat
namespace Advice

def clipboard : Advice where
  alternative := "Clipboard API"
  explanation :=
    "document.execCommand is deprecated and unreliable across browsers. " ++
    "The Clipboard API provides a modern, secure, and promise-based alternative."
  codeExample :=
    "// Instead of: document.execCommand('copy')\n// Use:\n" ++
    "await navigator.clipboard.writeText(textToCopy);\n\n" ++
    "// For reading:\nconst text = await navigator.clipboard.readText();"
  browserSupport := "Supported in Chrome 66+, Firefox 63+, Safari 13.1+"

def animation : Advice where
  alternative := "requestAnimationFrame"
  explanation :=
    "Vendor-prefixed APIs are no longer needed. " ++
    "The standard requestAnimationFrame is universally supported."
  codeExample :=
    "// Instead of: webkitRequestAnimationFrame(callback)\n// Use:\n" ++
    "requestAnimationFrame(callback);"
  browserSupport := "Universally supported in all modern browsers"

def media : Advice where
  alternative := "navigator.mediaDevices.getUserMedia"
  explanation :=
    "Legacy getUserMedia is deprecated. The modern API is promise-based and more secure."
  codeExample :=
    "// Instead of: navigator.webkitGetUserMedia(constraints, success, error)\n// Use:\n" ++
    "try \x7b\n" ++
    "  const stream = await navigator.mediaDevices.getUserMedia(constraints);\n" ++
    "  // Handle stream\n" ++
    "\x7d catch (error) \x7b\n" ++
    "  // Handle error\n" ++
    "\x7d"
  browserSupport := "Supported in all modern browsers with HTTPS requirement"

def url : Advice where
  alternative := "URL"
  explanation :=
    "The vendor-prefixed URL constructor is deprecated. Use the standard URL constructor."
  codeExample := "// Instead of: new webkitURL(url, base)\n// Use:\nnew URL(url, base);"
  browserSupport := "Universally supported in modern browsers"

def audio : Advice where
  alternative := "AudioContext"
  explanation :=
    "Vendor-prefixed AudioContext is deprecated. Use the standard AudioContext."
  codeExample := "// Instead of: new webkitAudioContext()\n// Use:\nnew AudioContext();"
  browserSupport := "Supported in all modern browsers"

def dialog : Advice where
  alternative := "<dialog> element"
  explanation :=
    "showModalDialog was removed from browsers. " ++
    "The <dialog> element provides native modal dialogs."
  codeExample :=
    "// Instead of: showModalDialog(url)\n// Use:\n" ++
    "const dialog = document.querySelector('dialog');\ndialog.showModal();"
  browserSupport := "Supported in Chrome 37+, Firefox 98+, Safari 15.4+"

/-- Advice for any API of which no more is known. -/
def general : Advice where
  alternative := "Modern alternative"
  explanation :=
    "This API may have compatibility issues or be deprecated. " ++
    "Check MDN Web Docs for modern alternatives."
  codeExample := "// Check MDN documentation for modern alternatives and examples"
  browserSupport := "Varies - check browser compatibility tables on MDN"

def table : List (String × Advice) := [
  ("document.execCommand", clipboard),
  ("webkitRequestAnimationFrame", animation),
  ("mozRequestAnimationFrame", animation),
  ("webkitGetUserMedia", media),
  ("navigator.webkitGetUserMedia", media),
  ("navigator.mozGetUserMedia", media),
  ("webkitURL", url),
  ("webkitAudioContext", audio),
  ("showModalDialog", dialog),
  ("window.showModalDialog", dialog)]

def known? (api : String) : Option Advice :=
  table.lookup api

def builtin (api : String) : Advice :=
  (known? api).getD general

end Advice
end WebCompat
