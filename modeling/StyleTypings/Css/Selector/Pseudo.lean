import StyleTypings.Css.Lexer

namespace StyleTypings.Css.Pseudo

def singleColonElements : List String := ["before", "after", "first-line", "first-letter"]

def scrollbarElements : List String := [
  "-webkit-scrollbar", "-webkit-scrollbar-button", "-webkit-scrollbar-track",
  "-webkit-scrollbar-track-piece", "-webkit-scrollbar-thumb", "-webkit-scrollbar-corner",
  "-webkit-resizer"]

/-- Pseudo-elements that may follow `::slotted()`. -/
def elementsAfterSlotted : List String := [
  "before", "after", "marker", "placeholder", "-webkit-input-placeholder", "-moz-placeholder",
  "-ms-input-placeholder", "file-selector-button", "-webkit-file-upload-button", "-ms-browse"]

def elements : List String :=
  elementsAfterSlotted ++ scrollbarElements ++ [
    "first-line", "first-letter", "details-content", "target-text", "search-text", "cue",
    "cue-region", "selection", "-moz-selection", "backdrop", "-webkit-backdrop", "picker-icon",
    "checkmark", "view-transition", "grammar-error", "spelling-error"]

def cueElements : List String := ["cue", "cue-region"]

def transitionElements : List String := [
  "view-transition-group", "view-transition-image-pair", "view-transition-old",
  "view-transition-new"]

/-- Pseudo-classes about an element's place in its tree. -/
def structuralClasses : List String := [
  "first-child", "last-child", "only-child", "root", "empty", "scope", "first-of-type",
  "last-of-type", "only-of-type", "host"]

def scrollbarClasses : List String := [
  "horizontal", "vertical", "decrement", "increment", "start", "end", "double-button",
  "single-button", "no-button", "corner-present", "window-inactive"]

def classesAfterScrollbar : List String :=
  scrollbarClasses ++ ["enabled", "disabled", "hover", "active"]

def userActionClasses : List String :=
  ["active", "hover", "focus", "focus-within", "focus-visible"]

end StyleTypings.Css.Pseudo
