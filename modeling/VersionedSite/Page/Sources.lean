/-!
# Sources of the templates

The texts that the templates of the home page are read from, line by line: the page itself, and the
parts that it embeds by name. A long line is cut where a piece of markup ends.
-/

namespace VersionedSite.Page

/-- The bar, which embeds its items. -/
def barSource : String := String.join [
  "<nav class=\"navbar\">\n",
  "  <div class=\"navbar__inner\">\n",
  "    <div class=\"navbar__items\">\n",
  "      <a class=\"navbar__brand\" href=\"\x7b\x7b navbar.home_href \x7d\x7d\">\n",
  "\x7b%- if navbar.logo %\x7d\n",
  "        <img class=\"navbar__logo\" src=\"\x7b\x7b navbar.logo.src \x7d\x7d\" alt=\"",
  "\x7b\x7b navbar.logo.alt | escape \x7d\x7d\">\n",
  "\x7b%- endif %\x7d\n",
  "\x7b%- if navbar.title %\x7d\n",
  "        <b class=\"navbar__title\">\x7b\x7b navbar.title | escape \x7d\x7d</b>\n",
  "\x7b%- endif %\x7d\n",
  "      </a>\n",
  "\x7b%- for item in navbar.left %\x7d\n",
  "      \x7b% include \"navbar_item.html\" %\x7d\n",
  "\x7b%- endfor %\x7d\n",
  "    </div>\n",
  "    <div class=\"navbar__items navbar__items--right\">\n",
  "\x7b%- for item in navbar.right %\x7d\n",
  "      \x7b% include \"navbar_item.html\" %\x7d\n",
  "\x7b%- endfor %\x7d\n",
  "    </div>\n",
  "  </div>\n",
  "</nav>\n"]

/-- An item of the bar: a menu of versions, a search box, or else a link. -/
def barItemSource : String := String.join [
  "\x7b%- if item.kind == \"version_dropdown\" -%\x7d\n",
  "<div class=\"navbar__item dropdown\">\n",
  "  <a class=\"navbar__link\" href=\"\x7b\x7b item.href \x7d\x7d\">",
  "\x7b\x7b item.label | escape \x7d\x7d</a>\n",
  "  <ul class=\"dropdown__menu\">\n",
  "\x7b%- for version in item.versions %\x7d\n",
  "    <li><a class=\"dropdown__link\x7b% if version.active %\x7d dropdown__link--active",
  "\x7b% endif %\x7d\" href=\"\x7b\x7b version.href \x7d\x7d\">",
  "\x7b\x7b version.label | escape \x7d\x7d</a></li>\n",
  "\x7b%- endfor %\x7d\n",
  "  </ul>\n",
  "</div>\n",
  "\x7b%- elsif item.kind == \"search\" -%\x7d\n",
  "<div class=\"navbar__search\"><input type=\"search\" placeholder=\"",
  "\x7b\x7b item.label \x7d\x7d\" aria-label=\"\x7b\x7b item.label \x7d\x7d\"></div>\n",
  "\x7b%- else -%\x7d\n",
  "<a class=\"navbar__item navbar__link\x7b% if item.class_name %\x7d ",
  "\x7b\x7b item.class_name \x7d\x7d\x7b% endif %\x7d\" href=\"\x7b\x7b item.href \x7d\x7d\"",
  "\x7b% if item.external %\x7d target=\"_blank\" rel=\"noopener noreferrer\"\x7b% endif %\x7d",
  "\x7b% if item.aria_label %\x7d aria-label=\"\x7b\x7b item.aria_label | escape \x7d\x7d\"",
  "\x7b% endif %\x7d>\x7b\x7b item.label | escape \x7d\x7d</a>\n",
  "\x7b%- endif -%\x7d\n"]

/-- The grid of features. -/
def featuresSource : String := String.join [
  "<section class=\"features\">\n",
  "  <div class=\"container\">\n",
  "    <div class=\"row\">\n",
  "\x7b%- for feature in features %\x7d\n",
  "      <div class=\"col col--4\" data-row=\"\x7b\x7b feature.row \x7d\x7d\" data-column=\"",
  "\x7b\x7b feature.column \x7d\x7d\">\n",
  "        <div class=\"text--center\">\n",
  "          <img class=\"featureSvg\" src=\"\x7b\x7b feature.icon_src \x7d\x7d\" role=\"img\"",
  " alt=\"\">\n",
  "        </div>\n",
  "        <div class=\"text--center padding-horiz--md\">\n",
  "          <h3>\x7b\x7b feature.title | escape \x7d\x7d</h3>\n",
  "          <p>\x7b\x7b feature.description | escape \x7d\x7d</p>\n",
  "        </div>\n",
  "      </div>\n",
  "\x7b%- endfor %\x7d\n",
  "    </div>\n",
  "  </div>\n",
  "</section>\n"]

/-- The section with the install commands. -/
def installSource : String := String.join [
  "<section class=\"install container margin-vert--lg\">\n",
  "  <h2>Install \x7b\x7b install.version | escape \x7d\x7d</h2>\n",
  "  <pre><code class=\"language-bash\">\x7b\x7b install.package_manager | escape \x7d\x7d</code>",
  "</pre>\n",
  "  <pre><code class=\"language-bash\">\x7b\x7b install.direct_apply | escape \x7d\x7d</code>",
  "</pre>\n",
  "</section>\n"]

/-- The footer: groups of links, and the copyright line if there is one. -/
def footerSource : String := String.join [
  "<footer class=\"footer footer--\x7b\x7b footer.style \x7d\x7d\">\n",
  "  <div class=\"container\">\n",
  "    <div class=\"row footer__links\">\n",
  "\x7b%- for group in footer.groups %\x7d\n",
  "      <div class=\"col footer__col\">\n",
  "        <div class=\"footer__title\">\x7b\x7b group.title | escape \x7d\x7d</div>\n",
  "        <ul class=\"footer__items\">\n",
  "\x7b%- for link in group.links %\x7d\n",
  "          <li class=\"footer__item\"><a class=\"footer__link-item\" href=\"",
  "\x7b\x7b link.href \x7d\x7d\"\x7b% if link.external %\x7d target=\"_blank\"",
  " rel=\"noopener noreferrer\"\x7b% endif %\x7d>\x7b\x7b link.label | escape \x7d\x7d</a></li>\n",
  "\x7b%- endfor %\x7d\n",
  "        </ul>\n",
  "      </div>\n",
  "\x7b%- endfor %\x7d\n",
  "    </div>\n",
  "\x7b%- if footer.copyright %\x7d\n",
  "    <div class=\"footer__copyright\">\x7b\x7b footer.copyright | escape \x7d\x7d</div>\n",
  "\x7b%- endif %\x7d\n",
  "  </div>\n",
  "</footer>\n"]

/-- The page, which embeds the parts. -/
def homeSource : String := String.join [
  "<!DOCTYPE html>\n",
  "<html lang=\"\x7b\x7b lang \x7d\x7d\">\n",
  "<head>\n",
  "  <meta charset=\"utf-8\">\n",
  "  <meta name=\"viewport\" content=\"width=device-width, initial-scale=1\">\n",
  "  <title>\x7b\x7b title | escape \x7d\x7d</title>\n",
  "  <meta name=\"description\" content=\"\x7b\x7b meta_description | escape \x7d\x7d\">\n",
  "\x7b%- if favicon %\x7d\n",
  "  <link rel=\"icon\" href=\"\x7b\x7b favicon \x7d\x7d\">\n",
  "\x7b%- endif %\x7d\n",
  "</head>\n",
  "<body>\n",
  "\x7b% include \"navbar.html\" %\x7d\n",
  "<header class=\"hero hero--primary\">\n",
  "  <div class=\"container\">\n",
  "    <h1 class=\"hero__title\">\x7b\x7b header.title | escape \x7d\x7d</h1>\n",
  "    <p class=\"hero__subtitle\">\x7b\x7b header.tagline | escape \x7d\x7d</p>\n",
  "\x7b%- if header.description != \"\" %\x7d\n",
  "    <p class=\"hero__description\">\x7b\x7b header.description | escape \x7d\x7d</p>\n",
  "\x7b%- endif %\x7d\n",
  "    <div class=\"buttons\">\n",
  "      <a class=\"button button--secondary button--lg\" href=\"",
  "\x7b\x7b header.actions[0].href \x7d\x7d\">\x7b\x7b header.actions[0].label | escape \x7d\x7d",
  "</a>\n",
  "      <a class=\"button button--outline button--lg margin-left--md\" href=\"",
  "\x7b\x7b header.actions[1].href \x7d\x7d\">\x7b\x7b header.actions[1].label | escape \x7d\x7d",
  "</a>\n",
  "    </div>\n",
  "  </div>\n",
  "</header>\n",
  "<main>\n",
  "\x7b% include \"features.html\" %\x7d\n",
  "\x7b%- if install %\x7d\n",
  "\x7b% include \"install.html\" %\x7d\n",
  "\x7b%- endif %\x7d\n",
  "\x7b%- if call_to_action %\x7d\n",
  "  <div class=\"container margin-vert--xl\">\n",
  "    <div class=\"row\">\n",
  "      <div class=\"col col--8 col--offset-2\">\n",
  "        <div class=\"text--center\">\n",
  "          <h2>\x7b\x7b call_to_action.heading | escape \x7d\x7d</h2>\n",
  "          <p class=\"text--lg\">\x7b\x7b call_to_action.body | escape \x7d\x7d</p>\n",
  "          <div class=\"margin-top--lg\">\n",
  "            <a class=\"button button--primary button--lg\" href=\"",
  "\x7b\x7b call_to_action.action.href \x7d\x7d\">",
  "\x7b\x7b call_to_action.action.label | escape \x7d\x7d</a>\n",
  "          </div>\n",
  "        </div>\n",
  "      </div>\n",
  "    </div>\n",
  "  </div>\n",
  "\x7b%- endif %\x7d\n",
  "</main>\n",
  "\x7b% include \"footer.html\" %\x7d\n",
  "</body>\n",
  "</html>\n"]

/-- The sources of the parts, by the names that a site replaces them by. -/
def sources : List (String × String) := [
  ("navbar.html", barSource), ("navbar_item.html", barItemSource),
  ("features.html", featuresSource), ("install.html", installSource),
  ("footer.html", footerSource)]

end VersionedSite.Page
