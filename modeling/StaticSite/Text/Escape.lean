/-!
# Escaping for markup

The five characters that mean something in markup are written as references.
-/

namespace StaticSite.Text

def escapedChar (c : Char) : List Char :=
  if c = '&' then ['&', 'a', 'm', 'p', ';']
  else if c = '>' then ['&', 'g', 't', ';']
  else if c = '<' then ['&', 'l', 't', ';']
  else if c = '\'' then ['&', '#', '3', '9', ';']
  else if c = '"' then ['&', '#', '3', '4', ';']
  else [c]

def escaped (s : List Char) : List Char := s.flatMap escapedChar

end StaticSite.Text
