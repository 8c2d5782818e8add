import ShapeMatch.Text.CodeSet

/-!
# Additions to the Standard

The characters that version 17 of the Unicode standard added.

The tables of general categories are those of the version before. Text is
written by the later one, so that the characters listed here show by
themselves, and names may contain them.

## Main definitions

* `Addition.alphabetic`, `Addition.numeric`: Letters and numbers.
* `Addition.marks`: Marks that take no room of their own.
* `Addition.symbols`: Symbols and punctuation.
* `Addition.all`: All of them.
-/

namespace ShapeMatch

namespace Addition

/-- Letters, numbers that look like letters, and vowel signs. -/
def alphabetic : CodeSet := .ofLines
    ["88f c5c cdc a7ce-a7cf a7d2 a7d4 a7f1 10940-10959 10ec5-10ec7 10efa-10efb 11b60-11b67",
     "11db0-11ddb 16ea0-16eb8 16ebb-16ed3 16ff2-16ff6 187f8-187ff 18d09-18d1e 18d80-18df2",
     "1e6c0-1e6de 1e6e0-1e6f5 1e6fe-1e6ff 2b73a-2b73f 2cea2-2cead 323b0-33479"]

/-- Decimal digits, and numbers that look like letters. -/
def numeric : CodeSet := .ofLines
    ["11de0-11de9 16ff4-16ff6"]

/-- Marks that take no room of their own. -/
def marks : CodeSet := .ofLines
    ["1acf-1add 1ae0-1aeb 10efa-10efb 11b60 11b62-11b64 11b66 1e6e3 1e6e6 1e6ee-1e6ef 1e6f5"]

/-- Symbols and punctuation. -/
def symbols : CodeSet := .ofLines
    ["20c1 2b96 fbc3-fbd2 fd90-fd91 fdc8-fdce 10ed0-10ed8 1ccfa-1ccfc 1ceba-1ced0 1cee0-1cef0",
     "1f6d8 1f777-1f77a 1f8d0-1f8d8 1fa54-1fa57 1fa8a 1fa8e 1fac8 1facd 1faea 1faef 1fbfa"]

/-- All additions. -/
def all : CodeSet := .unions [alphabetic, numeric, marks, symbols]

end Addition

end ShapeMatch
