import StaticSite.Json.Writer
import StaticSite.Text.Case

/-!
# Client scripts

Scripts that pages carry: one that signs visitors in and out, and one for each place a page can post
data to. A value enters a script only as a literal, so nothing in it can end the script. A block of
scripts goes in front of the end of a page's body.
-/

namespace StaticSite.Script

open StaticSite.Text

def ofLines (lines : List String) : List Char := (String.intercalate "\n" lines).toList

def authFront : List Char := ofLines
  ["<script>",
    "  window.essenceAuth = \x7b",
    "    login: async function (credentials) \x7b",
    "      const response = await fetch("]

def authBack : List Char := ofLines
  [", \x7b",
    "        method: \"POST\",",
    "        headers: \x7b \"Content-Type\": \"application/json\" \x7d,",
    "        body: JSON.stringify(credentials)",
    "      \x7d);",
    "      const data = await response.json();",
    "      if (data.token) \x7b",
    "        localStorage.setItem(\"auth_token\", data.token);",
    "        localStorage.setItem(\"auth_user\", JSON.stringify(data.user));",
    "        window.dispatchEvent(new CustomEvent(\"authLoggedIn\", \x7b detail: data.user \x7d));",
    "      \x7d",
    "      return data;",
    "    \x7d,",
    "    logout: function () \x7b",
    "      localStorage.removeItem(\"auth_token\");",
    "      localStorage.removeItem(\"auth_user\");",
    "      window.dispatchEvent(new Event(\"authLoggedOut\"));",
    "    \x7d,",
    "    getToken: function () \x7b",
    "      return localStorage.getItem(\"auth_token\");",
    "    \x7d,",
    "    getUser: function () \x7b",
    "      try \x7b",
    "        return JSON.parse(localStorage.getItem(\"auth_user\")) || null;",
    "      \x7d catch (error) \x7b",
    "        return null;",
    "      \x7d",
    "    \x7d,",
    "    isLoggedIn: function () \x7b",
    "      return !!localStorage.getItem(\"auth_token\");",
    "    \x7d",
    "  \x7d;",
    "</script>"]

/-- The script that signs in at an endpoint. -/
def auth (endpoint : Value) : Except Fault (List Char) := do
  return authFront ++ (← Json.scriptLiteral endpoint) ++ authBack

def postFront : List Char := ofLines
  ["<script>",
    "  window.essenceAPI = window.essenceAPI || \x7b\x7d;",
    "  window.essenceAPI["]

def postAddress : List Char := ofLines
  ["] = async function (\x7b body, headers = \x7b\x7d \x7d) \x7b",
    "    const url = "]

def postToken : List Char := ofLines
  [";",
    "    return fetch(url, \x7b",
    "      method: \"POST\",",
    "      headers: \x7b",
    "        \"Content-Type\": \"application/json\",",
    "        \"Authorization\": "]

def postBack : List Char := ofLines
  [",",
    "        ...headers",
    "      \x7d,",
    "      body: JSON.stringify(body)",
    "    \x7d).then((response) => response.json());",
    "  \x7d;",
    "</script>"]

/-- The script that posts to an endpoint below a base address, under a name. -/
def post (name base endpoint token : Value) : Except Fault (List Char) := do
  let address := (← base.printed) ++ (← endpoint.printed)
  let name ← Json.scriptLiteral name
  let address ← Json.scriptLiteral (.ofString address)
  let token ← Json.scriptLiteral (.ofString ("Bearer ".toList ++ (← token.printed)))
  return postFront ++ name ++ postAddress ++ address ++ postToken ++ token ++ postBack

def bodyClosing : List Char := "</body>".toList

/-- Puts scripts in front of the last end of a body, or at the end. The place is found in the text
in small letters. -/
def inject (s : List Char) (scripts : List (List Char)) : List Char :=
  if scripts.isEmpty then s
  else match cutAtLast? bodyClosing (lower s) with
    | none => s ++ scripts.flatten
    | some (before, _) => s.take before.length ++ scripts.flatten ++ s.drop before.length

end StaticSite.Script
