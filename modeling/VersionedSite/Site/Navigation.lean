/-!
# Navigation

The bar at the top of a page and the link groups at its foot. A link points either inside the
site, by a path that the prefix of the site is put before, or outside, by an address that is used
as it stands.
-/

namespace VersionedSite

/-- The side of the bar that an item stands on. -/
inductive Position where
  | left
  | right
  deriving DecidableEq, Repr

/-- A picture that leads home. -/
structure Logo where
  alt : String
  src : String
  deriving DecidableEq, Repr

/-- A link of the bar. -/
structure NavLink where
  label : Option String
  /-- A path inside the site. -/
  page : Option String
  /-- An address, mostly outside of it. -/
  href : Option String
  position : Position
  ariaLabel : Option String
  className : Option String
  deriving DecidableEq, Repr

inductive NavItem where
  /-- A link to the documentation of the version being viewed. -/
  | docSidebar (sidebarId label : String) (position : Position)
  | link (l : NavLink)
  | versionDropdown (position : Position)
  | search (position : Position)
  deriving DecidableEq, Repr

namespace NavItem

def position : NavItem → Position
  | docSidebar _ _ p => p
  | link l => l.position
  | versionDropdown p => p
  | search p => p

def isSearch : NavItem → Bool
  | search _ => true
  | _ => false

end NavItem

structure Navbar where
  title : Option String
  logo : Option Logo
  items : List NavItem
  deriving DecidableEq, Repr

namespace Navbar

def default : Navbar := ⟨none, none, []⟩

/-- The bar without its search boxes. -/
def withoutSearch (n : Navbar) : Navbar := { n with items := n.items.filter (!·.isSearch) }

end Navbar

/-! ## Footer -/

inductive FooterStyle where
  | dark
  | light
  deriving DecidableEq, Repr

structure FooterLink where
  label : String
  /-- A path inside the site. -/
  page : Option String
  /-- An address, mostly outside of it. -/
  href : Option String
  deriving DecidableEq, Repr

structure FooterGroup where
  title : String
  items : List FooterLink
  deriving DecidableEq, Repr

structure Footer where
  style : FooterStyle
  links : List FooterGroup
  /-- A template that may show the year. -/
  copyright : Option String
  deriving DecidableEq, Repr

def Footer.default : Footer := ⟨.dark, [], none⟩

/-! ## Targets -/

/-- A link has exactly one target. -/
def hasOneTarget (page href : Option String) : Bool := page.isSome != href.isSome

/-- A link that is to blame for its targets: the part of the page it is in, and its label. -/
structure BadLink where
  part : String
  label : String
  deriving DecidableEq, Repr

/-- The first link of the bar that has no target or two. -/
def Navbar.badLink? (n : Navbar) : Option BadLink :=
  n.items.findSome? fun
    | .link l =>
      if hasOneTarget l.page l.href then none
      else some ⟨"navbar", l.label.getD "<unlabeled>"⟩
    | _ => none

/-- The first link of the footer that has no target or two. -/
def Footer.badLink? (f : Footer) : Option BadLink :=
  (f.links.flatMap (·.items)).findSome? fun l ↦
    if hasOneTarget l.page l.href then none else some ⟨"footer", l.label⟩

end VersionedSite
