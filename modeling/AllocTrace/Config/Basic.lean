import AllocTrace.Summary

/-! The configuration of a run, its defaults and the checks that a usable one passes. -/

namespace AllocTrace

/-- The layout to read phases in; `auto` goes by the header of the first phase. -/
inductive SchemaChoice where
  | auto
  | stride
  | proxy
deriving DecidableEq

namespace SchemaChoice

def name : SchemaChoice → String
  | .auto => "auto"
  | .stride => "stride"
  | .proxy => "proxy"

def all : List SchemaChoice := [.auto, .stride, .proxy]

def ofName? (s : String) : Option SchemaChoice :=
  all.find? fun choice => choice.name == s

end SchemaChoice

/-- Where the chart goes and how it is drawn. -/
structure RenderConfig where
  enabled : Bool
  fileName : String
  maxTickLabels : Nat
  width : Nat
  height : Nat
deriving DecidableEq

def RenderConfig.default : RenderConfig :=
  {
    enabled := true
    fileName := "alloc_trace.svg"
    maxTickLabels := 32
    width := 1200
    height := 1000
  }

/-- What governs a run. `parallel` lets phases be folded at the same time. -/
structure Config where
  logLevel : String
  schema : SchemaChoice
  extension : String
  highlights : Nat
  parallel : Bool
  render : RenderConfig
deriving DecidableEq

/-- Why a configuration cannot be used. -/
inductive ConfigError where
  | emptyExtension
  | dottedExtension (extension : String)
  | noHighlights
  | emptyFileName
  | notBareFileName (fileName : String)
  | noTickLabels
  | emptyImage
deriving DecidableEq

def ConfigError.message : ConfigError → String
  | .emptyExtension => "extension must not be empty"
  | .dottedExtension extension => "extension must not start with '.': " ++ extension
  | .noHighlights => "highlights must be positive"
  | .emptyFileName => "render.file_name must not be empty"
  | .notBareFileName fileName => "render.file_name must be a bare file name: " ++ fileName
  | .noTickLabels => "render.max_tick_labels must be positive"
  | .emptyImage => "render.width and render.height must be positive"

namespace Config

/-- Counts are below this bound, 2^64. -/
def countBound : Nat := 18446744073709551616

/-- Widths and heights are below this bound, 2^32. -/
def pixelBound : Nat := 4294967296

def default : Config :=
  {
    logLevel := "info"
    schema := .auto
    extension := "csv"
    highlights := Summary.defaultHighlights
    parallel := false
    render := .default
  }

/-- The name has no separator of either kind in it. -/
def isBare (fileName : String) : Bool :=
  fileName.toList.all fun c => c ≠ '/' && c ≠ '\\'

/-- The first check that the configuration fails, if any. -/
def validate (config : Config) : Except ConfigError Unit :=
  let render := config.render
  if config.extension = "" then .error .emptyExtension
  else if config.extension.toList.head? = some '.' then
    .error (.dottedExtension config.extension)
  else if config.highlights = 0 then .error .noHighlights
  else if render.fileName = "" then .error .emptyFileName
  else if !isBare render.fileName then .error (.notBareFileName render.fileName)
  else if render.maxTickLabels = 0 then .error .noTickLabels
  else if render.width = 0 ∨ render.height = 0 then .error .emptyImage
  else .ok ()

end Config

end AllocTrace
