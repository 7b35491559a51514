/-
# The page of one applet

Puts together what a page is made of: the help text of the applet, the fragments written by hand
for it, and what the whole run shares (the date and the known applets).
-/
import Manpage.Help.Basic
import Manpage.Page.Layout
import Manpage.Page.Roff
import Manpage.Page.SeeAlso

namespace Manpage

/-- What has been written by hand for the page of an applet. -/
structure Fragments where
  description : Text
  /-- Further sections, in order. -/
  includes : List Text
deriving DecidableEq, Repr

/-- What all pages of a run share. -/
structure Edition where
  date : Text
  /-- The applets that pages refer to. -/
  known : List Text
deriving DecidableEq, Repr

/-- How much of each kind went into a page. -/
structure PageCounts where
  options : Nat
  subApplets : Nat
  includes : Nat
  seeAlso : Nat
deriving DecidableEq, Repr

namespace Page

/-- The page that presents what a help text says. -/
def ofHelp (edition : Edition) (applet : Text) (fragments : Fragments) (help : Help) : Page where
  applet := applet
  date := edition.date
  summary := help.usage.summary
  synopsis := help.usage.synopsis
  description := fragments.description
  options := Roff.options help.options
  sections := (help.subApplets.map Roff.subAppletsSection).getD [] ++ fragments.includes
  seeAlso := SeeAlso.references applet edition.known

/-- What went into the page that presents what a help text says. -/
def counts (edition : Edition) (applet : Text) (fragments : Fragments) (help : Help) :
    PageCounts where
  options := help.options.length
  subApplets := (help.subApplets.getD []).length
  includes := fragments.includes.length
  seeAlso := (SeeAlso.references applet edition.known).length

/-- The text of the page of an applet with its counts, or a refusal of the help text. -/
def generate (edition : Edition) (applet helpText : Text) (fragments : Fragments) :
    Except Malformed (Text × PageCounts) := do
  let help ← Help.parse applet helpText
  return ((ofHelp edition applet fragments help).render, counts edition applet fragments help)

end Page

end Manpage
