import VersionedSite.Liquid.Library

/-!
# Templates of the home page

The markup of the page around the values of the page. Texts are escaped where they are shown;
addresses, classes and the few words that are not free stand as they are. The parts of the page
are templates of their own, so that a site can replace one by another of the same name.

A template is written down as the nodes that its source is read as, so that nothing has to be read
again for each page.
-/

namespace VersionedSite.Page

open Liquid

/-! ## Building blocks -/

/-- Markup that is printed as it stands. -/
def markup (s : String) : Node := .text s.toList

/-- The value of a name. -/
def value (name : String) : Expr := .reference name []

/-- A member of a value. -/
def member (name : String) : Expr → Expr
  | .reference root path => .reference root (path ++ [.literal (.text name)])
  | e => e

/-- An item of a list. -/
def item (place : Nat) : Expr → Expr
  | .reference root path => .reference root (path ++ [.literal (.int place)])
  | e => e

/-- A member of the value of a name. -/
def field (root name : String) : Expr := member name (value root)

/-- A value as it stands. -/
def plain (e : Expr) : Node := .output ⟨e, []⟩

/-- A value with everything escaped that means something to markup. -/
def escaped (e : Expr) : Node := .output ⟨e, [⟨.escape, []⟩]⟩

/-- Nodes for a value that is there. -/
def given (e : Expr) (nodes : List Node) : Node := .branch (.holds e) true nodes []

/-- Nodes for a value that is the given text, and nodes for any other. -/
def ifText (e : Expr) (text : String) (yes no : List Node) : Node :=
  .branch (.compare .equal e (.literal (.text text))) true yes no

/-- Nodes for each item of a list. -/
def forEach (item : String) (e : Expr) (nodes : List Node) : Node :=
  .loop ⟨item, .items e, none, none⟩ false nodes []

/-- Another template. -/
def part (name : String) : Node := .include (.literal (.text name)) []

/-- What a link that leads out of the site is marked with. -/
def outside : List Node := [markup " target=\"_blank\" rel=\"noopener noreferrer\""]

/-! ## The bar -/

def versionDropdown : List Node := [
  markup "<div class=\"navbar__item dropdown\">\n  <a class=\"navbar__link\" href=\"",
  plain (field "item" "href"),
  markup "\">",
  escaped (field "item" "label"),
  markup "</a>\n  <ul class=\"dropdown__menu\">",
  forEach "version" (field "item" "versions") [
    markup "\n    <li><a class=\"dropdown__link",
    given (field "version" "active") [markup " dropdown__link--active"],
    markup "\" href=\"",
    plain (field "version" "href"),
    markup "\">",
    escaped (field "version" "label"),
    markup "</a></li>"],
  markup "\n  </ul>\n</div>"]

def searchBox : List Node := [
  markup "<div class=\"navbar__search\"><input type=\"search\" placeholder=\"",
  plain (field "item" "label"),
  markup "\" aria-label=\"",
  plain (field "item" "label"),
  markup "\"></div>"]

def barLink : List Node := [
  markup "<a class=\"navbar__item navbar__link",
  given (field "item" "class_name") [markup " ", plain (field "item" "class_name")],
  markup "\" href=\"",
  plain (field "item" "href"),
  markup "\"",
  given (field "item" "external") outside,
  given (field "item" "aria_label")
    [markup " aria-label=\"", escaped (field "item" "aria_label"), markup "\""],
  markup ">",
  escaped (field "item" "label"),
  markup "</a>"]

def barItemTemplate : Template := [
  ifText (field "item" "kind") "version_dropdown" versionDropdown
    [ifText (field "item" "kind") "search" searchBox barLink]]

def barTemplate : Template := [
  markup ("<nav class=\"navbar\">\n  <div class=\"navbar__inner\">\n"
    ++ "    <div class=\"navbar__items\">\n      <a class=\"navbar__brand\" href=\""),
  plain (field "navbar" "home_href"),
  markup "\">",
  given (field "navbar" "logo") [
    markup "\n        <img class=\"navbar__logo\" src=\"",
    plain (member "src" (field "navbar" "logo")),
    markup "\" alt=\"",
    escaped (member "alt" (field "navbar" "logo")),
    markup "\">"],
  given (field "navbar" "title") [
    markup "\n        <b class=\"navbar__title\">",
    escaped (field "navbar" "title"),
    markup "</b>"],
  markup "\n      </a>",
  forEach "item" (field "navbar" "left") [markup "\n      ", part "navbar_item.html"],
  markup "\n    </div>\n    <div class=\"navbar__items navbar__items--right\">",
  forEach "item" (field "navbar" "right") [markup "\n      ", part "navbar_item.html"],
  markup "\n    </div>\n  </div>\n</nav>\n"]

/-! ## Sections -/

def featuresTemplate : Template := [
  markup "<section class=\"features\">\n  <div class=\"container\">\n    <div class=\"row\">",
  forEach "feature" (value "features") [
    markup "\n      <div class=\"col col--4\" data-row=\"",
    plain (field "feature" "row"),
    markup "\" data-column=\"",
    plain (field "feature" "column"),
    markup "\">\n        <div class=\"text--center\">\n          <img class=\"featureSvg\" src=\"",
    plain (field "feature" "icon_src"),
    markup ("\" role=\"img\" alt=\"\">\n        </div>\n"
      ++ "        <div class=\"text--center padding-horiz--md\">\n          <h3>"),
    escaped (field "feature" "title"),
    markup "</h3>\n          <p>",
    escaped (field "feature" "description"),
    markup "</p>\n        </div>\n      </div>"],
  markup "\n    </div>\n  </div>\n</section>\n"]

def installTemplate : Template := [
  markup "<section class=\"install container margin-vert--lg\">\n  <h2>Install ",
  escaped (field "install" "version"),
  markup ("</h2>\n  " ++ "<pre><code class=\"language-bash\">"),
  escaped (field "install" "package_manager"),
  markup ("</code></pre>" ++ "\n  " ++ "<pre><code class=\"language-bash\">"),
  escaped (field "install" "direct_apply"),
  markup ("</code></pre>" ++ "\n</section>\n")]

def footerTemplate : Template := [
  markup "<footer class=\"footer footer--",
  plain (field "footer" "style"),
  markup "\">\n  <div class=\"container\">\n    <div class=\"row footer__links\">",
  forEach "group" (field "footer" "groups") [
    markup "\n      <div class=\"col footer__col\">\n        <div class=\"footer__title\">",
    escaped (field "group" "title"),
    markup "</div>\n        <ul class=\"footer__items\">",
    forEach "link" (field "group" "links") [
      markup "\n          <li class=\"footer__item\"><a class=\"footer__link-item\" href=\"",
      plain (field "link" "href"),
      markup "\"",
      given (field "link" "external") outside,
      markup ">",
      escaped (field "link" "label"),
      markup "</a></li>"],
    markup "\n        </ul>\n      </div>"],
  markup "\n    </div>",
  given (field "footer" "copyright") [
    markup "\n    <div class=\"footer__copyright\">",
    escaped (field "footer" "copyright"),
    markup "</div>"],
  markup "\n  </div>\n</footer>\n"]

/-! ## The page -/

/-- A button of the header. -/
def headerAction (place : Nat) : Expr := item place (field "header" "actions")

def headerTemplate : List Node := [
  markup ("\n<header class=\"hero hero--primary\">\n  <div class=\"container\">\n"
    ++ "    <h1 class=\"hero__title\">"),
  escaped (field "header" "title"),
  markup "</h1>\n    <p class=\"hero__subtitle\">",
  escaped (field "header" "tagline"),
  markup "</p>",
  .branch (.compare .notEqual (field "header" "description") (.literal (.text ""))) true [
    markup "\n    <p class=\"hero__description\">",
    escaped (field "header" "description"),
    markup "</p>"] [],
  markup ("\n    <div class=\"buttons\">\n"
    ++ "      <a class=\"button button--secondary button--lg\" href=\""),
  plain (member "href" (headerAction 0)),
  markup "\">",
  escaped (member "label" (headerAction 0)),
  markup ("</a>\n"
    ++ "      <a class=\"button button--outline button--lg margin-left--md\" href=\""),
  plain (member "href" (headerAction 1)),
  markup "\">",
  escaped (member "label" (headerAction 1)),
  markup "</a>\n    </div>\n  </div>\n</header>\n<main>\n"]

def callToActionTemplate : List Node := [
  markup ("\n  <div class=\"container margin-vert--xl\">\n    <div class=\"row\">\n"
    ++ "      <div class=\"col col--8 col--offset-2\">\n        <div class=\"text--center\">\n"
    ++ "          <h2>"),
  escaped (field "call_to_action" "heading"),
  markup "</h2>\n          <p class=\"text--lg\">",
  escaped (field "call_to_action" "body"),
  markup ("</p>\n          <div class=\"margin-top--lg\">\n"
    ++ "            <a class=\"button button--primary button--lg\" href=\""),
  plain (member "href" (field "call_to_action" "action")),
  markup "\">",
  escaped (member "label" (field "call_to_action" "action")),
  markup "</a>\n          </div>\n        </div>\n      </div>\n    </div>\n  </div>"]

def headTemplate : List Node := [
  markup "<!DOCTYPE html>\n<html lang=\"",
  plain (value "lang"),
  markup ("\">\n<head>\n  <meta charset=\"utf-8\">\n"
    ++ "  <meta name=\"viewport\" content=\"width=device-width, initial-scale=1\">\n  <title>"),
  escaped (value "title"),
  markup "</title>\n  <meta name=\"description\" content=\"",
  escaped (value "meta_description"),
  markup "\">",
  given (value "favicon")
    [markup "\n  <link rel=\"icon\" href=\"", plain (value "favicon"), markup "\">"],
  markup "\n</head>\n<body>\n"]

def homeTemplate : Template :=
  headTemplate ++ [part "navbar.html"] ++ headerTemplate
    ++ [part "features.html",
      given (value "install") [markup "\n", part "install.html"],
      given (value "call_to_action") callToActionTemplate,
      markup "\n</main>\n", part "footer.html", markup "\n</body>\n</html>\n"]

/-- The parts of the page, by the names that a site replaces them by. -/
def parts : List (String × Template) := [
  ("navbar.html", barTemplate), ("navbar_item.html", barItemTemplate),
  ("features.html", featuresTemplate), ("install.html", installTemplate),
  ("footer.html", footerTemplate)]

end VersionedSite.Page
