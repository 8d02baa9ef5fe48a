import WebCompat.Knowledge.Dataset

/-!
# The built-in sample

A small selection of feature records, for use where no dataset is given.
-/

namespace WebCompat
namespace Knowledge
namespace Sample

def record (name description : String) (baseline : BaselineLevel) (lowDate : Option String)
    (support : List (String × String)) (apis : List String)
    (discouragement : Option Discouragement) : Feature where
  name := some name
  description := some description
  availability := some {
    baseline := some baseline
    lowDate := lowDate
    support := .ofList support }
  apis := apis
  discouragement := discouragement

def asyncClipboard : Feature := record
  "Async clipboard"
  "The navigator.clipboard API asynchronously reads and writes to the system clipboard."
  (.level "low") (some "2024-06-11")
  [("chrome", "66"), ("edge", "79"), ("firefox", "127"), ("safari", "13.1")]
  ["api.Clipboard.writeText",
    "api.Clipboard.readText",
    "api.Navigator.clipboard"]
  none

def execcommand : Feature := record
  "execCommand"
  "The document.execCommand() method runs editing commands on an editable region of the page."
  (.flag false) none
  [("chrome", "1"), ("edge", "12"), ("firefox", "1"), ("safari", "1.3")]
  ["api.Document.execCommand",
    "api.Document.queryCommandEnabled",
    "api.Document.queryCommandState"]
  (some {
    accordingTo := ["https://w3c.github.io/editing/docs/execCommand/"]
    alternatives := ["async-clipboard"] })

def fetch : Feature := record
  "Fetch"
  "The fetch() method makes asynchronous HTTP requests."
  (.level "high") (some "2017-03-27")
  [("chrome", "42"), ("edge", "14"), ("firefox", "39"), ("safari", "10.1")]
  ["api.fetch",
    "api.Request",
    "api.Response"]
  none

def fileSystemAccess : Feature := record
  "File system access"
  "The showOpenFilePicker(), showSaveFilePicker(), and showDirectoryPicker() methods give access to files on the user's device."
  (.flag false) none
  [("chrome", "86"), ("edge", "86")]
  ["api.Window.showOpenFilePicker",
    "api.Window.showSaveFilePicker",
    "api.Window.showDirectoryPicker"]
  none

def mutationEvents : Feature := record
  "Mutation events"
  "Mutation events fire when the DOM tree changes."
  (.flag false) none
  [("firefox", "6"), ("safari", "3")]
  ["api.MutationEvent",
    "api.Element.DOMNodeInserted_event",
    "api.Element.DOMNodeRemoved_event"]
  (some {
    accordingTo := ["https://chromestatus.com/feature/5083947249172480"]
    alternatives := ["mutationobserver"] })

def requestanimationframe : Feature := record
  "requestAnimationFrame()"
  "The requestAnimationFrame() method runs a callback before the next repaint."
  (.level "high") (some "2015-07-29")
  [("chrome", "24"), ("edge", "12"), ("firefox", "23"), ("safari", "7")]
  ["api.Window.requestAnimationFrame",
    "api.Window.cancelAnimationFrame"]
  none

def speechRecognition : Feature := record
  "Speech recognition"
  "The SpeechRecognition API converts spoken audio into text."
  (.flag false) none
  [("chrome", "33"), ("edge", "79"), ("safari", "14.1")]
  ["api.SpeechRecognition",
    "api.SpeechRecognition.start",
    "api.SpeechRecognitionEvent"]
  none

def viewTransitions : Feature := record
  "View transitions"
  "View transitions animate between DOM states."
  (.flag false) none
  [("chrome", "111"), ("edge", "111"), ("safari", "18")]
  ["api.Document.startViewTransition",
    "api.ViewTransition"]
  none

def webBluetooth : Feature := record
  "Web Bluetooth"
  "The Web Bluetooth API connects and interacts with Bluetooth Low Energy peripherals."
  (.flag false) none
  [("chrome", "56"), ("edge", "79")]
  ["api.Bluetooth",
    "api.Bluetooth.requestDevice",
    "api.Navigator.bluetooth"]
  none

def webSerial : Feature := record
  "Web Serial"
  "The Web Serial API communicates with serial devices."
  (.flag false) none
  [("chrome", "89"), ("edge", "89")]
  ["api.Serial",
    "api.Serial.requestPort",
    "api.Navigator.serial"]
  none

def webShare : Feature := record
  "Web share"
  "The navigator.share() method invokes the native sharing mechanism of the device."
  (.flag false) none
  [("chrome_android", "61"), ("edge", "93"), ("safari", "12.1")]
  ["api.Navigator.share",
    "api.Navigator.canShare"]
  none

def webUsb : Feature := record
  "WebUSB"
  "The WebUSB API exposes USB devices to web pages."
  (.flag false) none
  [("chrome", "61"), ("edge", "79")]
  ["api.USB",
    "api.Navigator.usb"]
  none

/-- A former id, under which nothing is recorded any more. -/
def webusb : Feature where
  name := none
  description := none
  availability := none
  apis := []
  discouragement := none

def dataset : Dataset := .ofList [
  ("async-clipboard", asyncClipboard),
  ("execcommand", execcommand),
  ("fetch", fetch),
  ("file-system-access", fileSystemAccess),
  ("mutation-events", mutationEvents),
  ("requestanimationframe", requestanimationframe),
  ("speech-recognition", speechRecognition),
  ("view-transitions", viewTransitions),
  ("web-bluetooth", webBluetooth),
  ("web-serial", webSerial),
  ("web-share", webShare),
  ("web-usb", webUsb),
  ("webusb", webusb)]

end Sample
end Knowledge
end WebCompat
