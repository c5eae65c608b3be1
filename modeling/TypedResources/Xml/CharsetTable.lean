-- The encodings that a document may name beside the standard ones of XML: those with a character for
-- each byte as runs of bytes that stand for consecutive characters, and those that are of no use.

namespace TypedResources.Xml

-- `count` bytes from `first` on stand for the characters from `code` on.
structure PageRun where
  first : Nat
  code  : Nat
  count : Nat
deriving DecidableEq

inductive Charset
  -- One byte to a character; a byte that no run covers stands for nothing.
  | page (runs : List PageRun)
  -- Bytes below 128 do not stand for ASCII.
  | foreign
deriving DecidableEq

-- Why no document can be read in an encoding.
inductive Unreadable
  | unknown
  -- Some characters take several bytes.
  | multiByte
  -- It writes bytes as other bytes, and no text.
  | noText
  -- It does not pass over what it cannot read.
  | strict
  -- It reads nothing at all.
  | undefined
  -- It reads only bytes below 128.
  | asciiOnly
deriving DecidableEq

-- An encoding, under names of its own and under aliases.
structure Codec where
  names   : List String
  aliases : List String := []
  charset : Except Unreadable Charset

-- Beyond ASCII these need more than one byte, or have nothing.
def asciiSet : Codec where
  names   := [
    "ascii", "iso2022_jp", "iso2022_jp_1", "iso2022_jp_2", "iso2022_jp_2004", "iso2022_jp_3",
    "iso2022_jp_ext", "utf_8", "utf_8_sig"]
  aliases := [
    "646", "ansi_x3.4_1968", "ansi_x3.4_1986", "ansi_x3_4_1968", "cp367", "cp65001", "csascii",
    "csiso2022jp", "ibm367", "iso2022jp", "iso2022jp_1", "iso2022jp_2", "iso2022jp_2004",
    "iso2022jp_3", "iso2022jp_ext", "iso646_us", "iso_2022_jp", "iso_2022_jp_1", "iso_2022_jp_2",
    "iso_2022_jp_2004", "iso_2022_jp_3", "iso_2022_jp_ext", "iso_646.irv_1991", "iso_ir_6", "u8",
    "us", "us_ascii", "utf", "utf8", "utf8_ucs2", "utf8_ucs4"]
  charset := .ok (.page [⟨0x00, 0x0, 128⟩])

def latin1Set : Codec where
  names   := ["charmap", "iso8859_1", "latin_1", "raw_unicode_escape", "unicode_escape"]
  aliases := [
    "8859", "cp819", "csisolatin1", "ibm819", "iso8859", "iso8859_1", "iso_8859_1",
    "iso_8859_1_1987", "iso_ir_100", "l1", "latin", "latin1"]
  charset := .ok (.page [⟨0x00, 0x0, 256⟩])

def cp1006Set : Codec where
  names   := ["cp1006"]
  charset := .ok (.page [
    ⟨0x00, 0x0, 161⟩, ⟨0xA1, 0x6F0, 10⟩, ⟨0xAB, 0x60C, 1⟩, ⟨0xAC, 0x61B, 1⟩, ⟨0xAD, 0xAD, 1⟩,
    ⟨0xAE, 0x61F, 1⟩, ⟨0xAF, 0xFE81, 1⟩, ⟨0xB0, 0xFE8D, 2⟩, ⟨0xB2, 0xFE8E, 2⟩, ⟨0xB4, 0xFE91, 1⟩,
    ⟨0xB5, 0xFB56, 1⟩, ⟨0xB6, 0xFB58, 1⟩, ⟨0xB7, 0xFE93, 1⟩, ⟨0xB8, 0xFE95, 1⟩, ⟨0xB9, 0xFE97, 1⟩,
    ⟨0xBA, 0xFB66, 1⟩, ⟨0xBB, 0xFB68, 1⟩, ⟨0xBC, 0xFE99, 1⟩, ⟨0xBD, 0xFE9B, 1⟩, ⟨0xBE, 0xFE9D, 1⟩,
    ⟨0xBF, 0xFE9F, 1⟩, ⟨0xC0, 0xFB7A, 1⟩, ⟨0xC1, 0xFB7C, 1⟩, ⟨0xC2, 0xFEA1, 1⟩, ⟨0xC3, 0xFEA3, 1⟩,
    ⟨0xC4, 0xFEA5, 1⟩, ⟨0xC5, 0xFEA7, 1⟩, ⟨0xC6, 0xFEA9, 1⟩, ⟨0xC7, 0xFB84, 1⟩, ⟨0xC8, 0xFEAB, 1⟩,
    ⟨0xC9, 0xFEAD, 1⟩, ⟨0xCA, 0xFB8C, 1⟩, ⟨0xCB, 0xFEAF, 1⟩, ⟨0xCC, 0xFB8A, 1⟩, ⟨0xCD, 0xFEB1, 1⟩,
    ⟨0xCE, 0xFEB3, 1⟩, ⟨0xCF, 0xFEB5, 1⟩, ⟨0xD0, 0xFEB7, 1⟩, ⟨0xD1, 0xFEB9, 1⟩, ⟨0xD2, 0xFEBB, 1⟩,
    ⟨0xD3, 0xFEBD, 1⟩, ⟨0xD4, 0xFEBF, 1⟩, ⟨0xD5, 0xFEC1, 1⟩, ⟨0xD6, 0xFEC5, 1⟩, ⟨0xD7, 0xFEC9, 9⟩,
    ⟨0xE0, 0xFED3, 1⟩, ⟨0xE1, 0xFED5, 1⟩, ⟨0xE2, 0xFED7, 1⟩, ⟨0xE3, 0xFED9, 1⟩, ⟨0xE4, 0xFEDB, 1⟩,
    ⟨0xE5, 0xFB92, 1⟩, ⟨0xE6, 0xFB94, 1⟩, ⟨0xE7, 0xFEDD, 1⟩, ⟨0xE8, 0xFEDF, 3⟩, ⟨0xEB, 0xFEE3, 1⟩,
    ⟨0xEC, 0xFB9E, 1⟩, ⟨0xED, 0xFEE5, 1⟩, ⟨0xEE, 0xFEE7, 1⟩, ⟨0xEF, 0xFE85, 1⟩, ⟨0xF0, 0xFEED, 1⟩,
    ⟨0xF1, 0xFBA6, 1⟩, ⟨0xF2, 0xFBA8, 3⟩, ⟨0xF5, 0xFE80, 1⟩, ⟨0xF6, 0xFE89, 3⟩, ⟨0xF9, 0xFEF1, 3⟩,
    ⟨0xFC, 0xFBB0, 1⟩, ⟨0xFD, 0xFBAE, 1⟩, ⟨0xFE, 0xFE7C, 2⟩])

def cp1125Set : Codec where
  names   := ["cp1125"]
  aliases := ["1125", "cp866u", "ibm1125", "ruscii"]
  charset := .ok (.page [
    ⟨0x00, 0x0, 128⟩, ⟨0x80, 0x410, 48⟩, ⟨0xB0, 0x2591, 3⟩, ⟨0xB3, 0x2502, 1⟩, ⟨0xB4, 0x2524, 1⟩,
    ⟨0xB5, 0x2561, 2⟩, ⟨0xB7, 0x2556, 1⟩, ⟨0xB8, 0x2555, 1⟩, ⟨0xB9, 0x2563, 1⟩, ⟨0xBA, 0x2551, 1⟩,
    ⟨0xBB, 0x2557, 1⟩, ⟨0xBC, 0x255D, 1⟩, ⟨0xBD, 0x255C, 1⟩, ⟨0xBE, 0x255B, 1⟩, ⟨0xBF, 0x2510, 1⟩,
    ⟨0xC0, 0x2514, 1⟩, ⟨0xC1, 0x2534, 1⟩, ⟨0xC2, 0x252C, 1⟩, ⟨0xC3, 0x251C, 1⟩, ⟨0xC4, 0x2500, 1⟩,
    ⟨0xC5, 0x253C, 1⟩, ⟨0xC6, 0x255E, 2⟩, ⟨0xC8, 0x255A, 1⟩, ⟨0xC9, 0x2554, 1⟩, ⟨0xCA, 0x2569, 1⟩,
    ⟨0xCB, 0x2566, 1⟩, ⟨0xCC, 0x2560, 1⟩, ⟨0xCD, 0x2550, 1⟩, ⟨0xCE, 0x256C, 1⟩, ⟨0xCF, 0x2567, 2⟩,
    ⟨0xD1, 0x2564, 2⟩, ⟨0xD3, 0x2559, 1⟩, ⟨0xD4, 0x2558, 1⟩, ⟨0xD5, 0x2552, 2⟩, ⟨0xD7, 0x256B, 1⟩,
    ⟨0xD8, 0x256A, 1⟩, ⟨0xD9, 0x2518, 1⟩, ⟨0xDA, 0x250C, 1⟩, ⟨0xDB, 0x2588, 1⟩, ⟨0xDC, 0x2584, 1⟩,
    ⟨0xDD, 0x258C, 1⟩, ⟨0xDE, 0x2590, 1⟩, ⟨0xDF, 0x2580, 1⟩, ⟨0xE0, 0x440, 16⟩, ⟨0xF0, 0x401, 1⟩,
    ⟨0xF1, 0x451, 1⟩, ⟨0xF2, 0x490, 2⟩, ⟨0xF4, 0x404, 1⟩, ⟨0xF5, 0x454, 1⟩, ⟨0xF6, 0x406, 1⟩,
    ⟨0xF7, 0x456, 1⟩, ⟨0xF8, 0x407, 1⟩, ⟨0xF9, 0x457, 1⟩, ⟨0xFA, 0xB7, 1⟩, ⟨0xFB, 0x221A, 1⟩,
    ⟨0xFC, 0x2116, 1⟩, ⟨0xFD, 0xA4, 1⟩, ⟨0xFE, 0x25A0, 1⟩, ⟨0xFF, 0xA0, 1⟩])

def cp1250Set : Codec where
  names   := ["cp1250"]
  aliases := ["1250", "windows_1250"]
  charset := .ok (.page [
    ⟨0x00, 0x0, 128⟩, ⟨0x80, 0x20AC, 1⟩, ⟨0x82, 0x201A, 1⟩, ⟨0x84, 0x201E, 1⟩, ⟨0x85, 0x2026, 1⟩,
    ⟨0x86, 0x2020, 2⟩, ⟨0x89, 0x2030, 1⟩, ⟨0x8A, 0x160, 1⟩, ⟨0x8B, 0x2039, 1⟩, ⟨0x8C, 0x15A, 1⟩,
    ⟨0x8D, 0x164, 1⟩, ⟨0x8E, 0x17D, 1⟩, ⟨0x8F, 0x179, 1⟩, ⟨0x91, 0x2018, 2⟩, ⟨0x93, 0x201C, 2⟩,
    ⟨0x95, 0x2022, 1⟩, ⟨0x96, 0x2013, 2⟩, ⟨0x99, 0x2122, 1⟩, ⟨0x9A, 0x161, 1⟩, ⟨0x9B, 0x203A, 1⟩,
    ⟨0x9C, 0x15B, 1⟩, ⟨0x9D, 0x165, 1⟩, ⟨0x9E, 0x17E, 1⟩, ⟨0x9F, 0x17A, 1⟩, ⟨0xA0, 0xA0, 1⟩,
    ⟨0xA1, 0x2C7, 1⟩, ⟨0xA2, 0x2D8, 1⟩, ⟨0xA3, 0x141, 1⟩, ⟨0xA4, 0xA4, 1⟩, ⟨0xA5, 0x104, 1⟩,
    ⟨0xA6, 0xA6, 4⟩, ⟨0xAA, 0x15E, 1⟩, ⟨0xAB, 0xAB, 4⟩, ⟨0xAF, 0x17B, 1⟩, ⟨0xB0, 0xB0, 2⟩,
    ⟨0xB2, 0x2DB, 1⟩, ⟨0xB3, 0x142, 1⟩, ⟨0xB4, 0xB4, 5⟩, ⟨0xB9, 0x105, 1⟩, ⟨0xBA, 0x15F, 1⟩,
    ⟨0xBB, 0xBB, 1⟩, ⟨0xBC, 0x13D, 1⟩, ⟨0xBD, 0x2DD, 1⟩, ⟨0xBE, 0x13E, 1⟩, ⟨0xBF, 0x17C, 1⟩,
    ⟨0xC0, 0x154, 1⟩, ⟨0xC1, 0xC1, 2⟩, ⟨0xC3, 0x102, 1⟩, ⟨0xC4, 0xC4, 1⟩, ⟨0xC5, 0x139, 1⟩,
    ⟨0xC6, 0x106, 1⟩, ⟨0xC7, 0xC7, 1⟩, ⟨0xC8, 0x10C, 1⟩, ⟨0xC9, 0xC9, 1⟩, ⟨0xCA, 0x118, 1⟩,
    ⟨0xCB, 0xCB, 1⟩, ⟨0xCC, 0x11A, 1⟩, ⟨0xCD, 0xCD, 2⟩, ⟨0xCF, 0x10E, 1⟩, ⟨0xD0, 0x110, 1⟩,
    ⟨0xD1, 0x143, 1⟩, ⟨0xD2, 0x147, 1⟩, ⟨0xD3, 0xD3, 2⟩, ⟨0xD5, 0x150, 1⟩, ⟨0xD6, 0xD6, 2⟩,
    ⟨0xD8, 0x158, 1⟩, ⟨0xD9, 0x16E, 1⟩, ⟨0xDA, 0xDA, 1⟩, ⟨0xDB, 0x170, 1⟩, ⟨0xDC, 0xDC, 2⟩,
    ⟨0xDE, 0x162, 1⟩, ⟨0xDF, 0xDF, 1⟩, ⟨0xE0, 0x155, 1⟩, ⟨0xE1, 0xE1, 2⟩, ⟨0xE3, 0x103, 1⟩,
    ⟨0xE4, 0xE4, 1⟩, ⟨0xE5, 0x13A, 1⟩, ⟨0xE6, 0x107, 1⟩, ⟨0xE7, 0xE7, 1⟩, ⟨0xE8, 0x10D, 1⟩,
    ⟨0xE9, 0xE9, 1⟩, ⟨0xEA, 0x119, 1⟩, ⟨0xEB, 0xEB, 1⟩, ⟨0xEC, 0x11B, 1⟩, ⟨0xED, 0xED, 2⟩,
    ⟨0xEF, 0x10F, 1⟩, ⟨0xF0, 0x111, 1⟩, ⟨0xF1, 0x144, 1⟩, ⟨0xF2, 0x148, 1⟩, ⟨0xF3, 0xF3, 2⟩,
    ⟨0xF5, 0x151, 1⟩, ⟨0xF6, 0xF6, 2⟩, ⟨0xF8, 0x159, 1⟩, ⟨0xF9, 0x16F, 1⟩, ⟨0xFA, 0xFA, 1⟩,
    ⟨0xFB, 0x171, 1⟩, ⟨0xFC, 0xFC, 2⟩, ⟨0xFE, 0x163, 1⟩, ⟨0xFF, 0x2D9, 1⟩])

def cp1251Set : Codec where
  names   := ["cp1251"]
  aliases := ["1251", "windows_1251"]
  charset := .ok (.page [
    ⟨0x00, 0x0, 128⟩, ⟨0x80, 0x402, 2⟩, ⟨0x82, 0x201A, 1⟩, ⟨0x83, 0x453, 1⟩, ⟨0x84, 0x201E, 1⟩,
    ⟨0x85, 0x2026, 1⟩, ⟨0x86, 0x2020, 2⟩, ⟨0x88, 0x20AC, 1⟩, ⟨0x89, 0x2030, 1⟩, ⟨0x8A, 0x409, 1⟩,
    ⟨0x8B, 0x2039, 1⟩, ⟨0x8C, 0x40A, 1⟩, ⟨0x8D, 0x40C, 1⟩, ⟨0x8E, 0x40B, 1⟩, ⟨0x8F, 0x40F, 1⟩,
    ⟨0x90, 0x452, 1⟩, ⟨0x91, 0x2018, 2⟩, ⟨0x93, 0x201C, 2⟩, ⟨0x95, 0x2022, 1⟩, ⟨0x96, 0x2013, 2⟩,
    ⟨0x99, 0x2122, 1⟩, ⟨0x9A, 0x459, 1⟩, ⟨0x9B, 0x203A, 1⟩, ⟨0x9C, 0x45A, 1⟩, ⟨0x9D, 0x45C, 1⟩,
    ⟨0x9E, 0x45B, 1⟩, ⟨0x9F, 0x45F, 1⟩, ⟨0xA0, 0xA0, 1⟩, ⟨0xA1, 0x40E, 1⟩, ⟨0xA2, 0x45E, 1⟩,
    ⟨0xA3, 0x408, 1⟩, ⟨0xA4, 0xA4, 1⟩, ⟨0xA5, 0x490, 1⟩, ⟨0xA6, 0xA6, 2⟩, ⟨0xA8, 0x401, 1⟩,
    ⟨0xA9, 0xA9, 1⟩, ⟨0xAA, 0x404, 1⟩, ⟨0xAB, 0xAB, 4⟩, ⟨0xAF, 0x407, 1⟩, ⟨0xB0, 0xB0, 2⟩,
    ⟨0xB2, 0x406, 1⟩, ⟨0xB3, 0x456, 1⟩, ⟨0xB4, 0x491, 1⟩, ⟨0xB5, 0xB5, 3⟩, ⟨0xB8, 0x451, 1⟩,
    ⟨0xB9, 0x2116, 1⟩, ⟨0xBA, 0x454, 1⟩, ⟨0xBB, 0xBB, 1⟩, ⟨0xBC, 0x458, 1⟩, ⟨0xBD, 0x405, 1⟩,
    ⟨0xBE, 0x455, 1⟩, ⟨0xBF, 0x457, 1⟩, ⟨0xC0, 0x410, 64⟩])

def cp1252Set : Codec where
  names   := ["cp1252"]
  aliases := ["1252", "windows_1252"]
  charset := .ok (.page [
    ⟨0x00, 0x0, 128⟩, ⟨0x80, 0x20AC, 1⟩, ⟨0x82, 0x201A, 1⟩, ⟨0x83, 0x192, 1⟩, ⟨0x84, 0x201E, 1⟩,
    ⟨0x85, 0x2026, 1⟩, ⟨0x86, 0x2020, 2⟩, ⟨0x88, 0x2C6, 1⟩, ⟨0x89, 0x2030, 1⟩, ⟨0x8A, 0x160, 1⟩,
    ⟨0x8B, 0x2039, 1⟩, ⟨0x8C, 0x152, 1⟩, ⟨0x8E, 0x17D, 1⟩, ⟨0x91, 0x2018, 2⟩, ⟨0x93, 0x201C, 2⟩,
    ⟨0x95, 0x2022, 1⟩, ⟨0x96, 0x2013, 2⟩, ⟨0x98, 0x2DC, 1⟩, ⟨0x99, 0x2122, 1⟩, ⟨0x9A, 0x161, 1⟩,
    ⟨0x9B, 0x203A, 1⟩, ⟨0x9C, 0x153, 1⟩, ⟨0x9E, 0x17E, 1⟩, ⟨0x9F, 0x178, 1⟩, ⟨0xA0, 0xA0, 96⟩])

def cp1253Set : Codec where
  names   := ["cp1253"]
  aliases := ["1253", "windows_1253"]
  charset := .ok (.page [
    ⟨0x00, 0x0, 128⟩, ⟨0x80, 0x20AC, 1⟩, ⟨0x82, 0x201A, 1⟩, ⟨0x83, 0x192, 1⟩, ⟨0x84, 0x201E, 1⟩,
    ⟨0x85, 0x2026, 1⟩, ⟨0x86, 0x2020, 2⟩, ⟨0x89, 0x2030, 1⟩, ⟨0x8B, 0x2039, 1⟩, ⟨0x91, 0x2018, 2⟩,
    ⟨0x93, 0x201C, 2⟩, ⟨0x95, 0x2022, 1⟩, ⟨0x96, 0x2013, 2⟩, ⟨0x99, 0x2122, 1⟩, ⟨0x9B, 0x203A, 1⟩,
    ⟨0xA0, 0xA0, 1⟩, ⟨0xA1, 0x385, 2⟩, ⟨0xA3, 0xA3, 7⟩, ⟨0xAB, 0xAB, 4⟩, ⟨0xAF, 0x2015, 1⟩,
    ⟨0xB0, 0xB0, 4⟩, ⟨0xB4, 0x384, 1⟩, ⟨0xB5, 0xB5, 3⟩, ⟨0xB8, 0x388, 3⟩, ⟨0xBB, 0xBB, 1⟩,
    ⟨0xBC, 0x38C, 1⟩, ⟨0xBD, 0xBD, 1⟩, ⟨0xBE, 0x38E, 20⟩, ⟨0xD3, 0x3A3, 44⟩])

def cp1254Set : Codec where
  names   := ["cp1254"]
  aliases := ["1254", "windows_1254"]
  charset := .ok (.page [
    ⟨0x00, 0x0, 128⟩, ⟨0x80, 0x20AC, 1⟩, ⟨0x82, 0x201A, 1⟩, ⟨0x83, 0x192, 1⟩, ⟨0x84, 0x201E, 1⟩,
    ⟨0x85, 0x2026, 1⟩, ⟨0x86, 0x2020, 2⟩, ⟨0x88, 0x2C6, 1⟩, ⟨0x89, 0x2030, 1⟩, ⟨0x8A, 0x160, 1⟩,
    ⟨0x8B, 0x2039, 1⟩, ⟨0x8C, 0x152, 1⟩, ⟨0x91, 0x2018, 2⟩, ⟨0x93, 0x201C, 2⟩, ⟨0x95, 0x2022, 1⟩,
    ⟨0x96, 0x2013, 2⟩, ⟨0x98, 0x2DC, 1⟩, ⟨0x99, 0x2122, 1⟩, ⟨0x9A, 0x161, 1⟩, ⟨0x9B, 0x203A, 1⟩,
    ⟨0x9C, 0x153, 1⟩, ⟨0x9F, 0x178, 1⟩, ⟨0xA0, 0xA0, 48⟩, ⟨0xD0, 0x11E, 1⟩, ⟨0xD1, 0xD1, 12⟩,
    ⟨0xDD, 0x130, 1⟩, ⟨0xDE, 0x15E, 1⟩, ⟨0xDF, 0xDF, 17⟩, ⟨0xF0, 0x11F, 1⟩, ⟨0xF1, 0xF1, 12⟩,
    ⟨0xFD, 0x131, 1⟩, ⟨0xFE, 0x15F, 1⟩, ⟨0xFF, 0xFF, 1⟩])

def cp1255Set : Codec where
  names   := ["cp1255"]
  aliases := ["1255", "windows_1255"]
  charset := .ok (.page [
    ⟨0x00, 0x0, 128⟩, ⟨0x80, 0x20AC, 1⟩, ⟨0x82, 0x201A, 1⟩, ⟨0x83, 0x192, 1⟩, ⟨0x84, 0x201E, 1⟩,
    ⟨0x85, 0x2026, 1⟩, ⟨0x86, 0x2020, 2⟩, ⟨0x88, 0x2C6, 1⟩, ⟨0x89, 0x2030, 1⟩, ⟨0x8B, 0x2039, 1⟩,
    ⟨0x91, 0x2018, 2⟩, ⟨0x93, 0x201C, 2⟩, ⟨0x95, 0x2022, 1⟩, ⟨0x96, 0x2013, 2⟩, ⟨0x98, 0x2DC, 1⟩,
    ⟨0x99, 0x2122, 1⟩, ⟨0x9B, 0x203A, 1⟩, ⟨0xA0, 0xA0, 4⟩, ⟨0xA4, 0x20AA, 1⟩, ⟨0xA5, 0xA5, 5⟩,
    ⟨0xAA, 0xD7, 1⟩, ⟨0xAB, 0xAB, 15⟩, ⟨0xBA, 0xF7, 1⟩, ⟨0xBB, 0xBB, 5⟩, ⟨0xC0, 0x5B0, 10⟩,
    ⟨0xCB, 0x5BB, 9⟩, ⟨0xD4, 0x5F0, 5⟩, ⟨0xE0, 0x5D0, 27⟩, ⟨0xFD, 0x200E, 2⟩])

def cp1256Set : Codec where
  names   := ["cp1256"]
  aliases := ["1256", "windows_1256"]
  charset := .ok (.page [
    ⟨0x00, 0x0, 128⟩, ⟨0x80, 0x20AC, 1⟩, ⟨0x81, 0x67E, 1⟩, ⟨0x82, 0x201A, 1⟩, ⟨0x83, 0x192, 1⟩,
    ⟨0x84, 0x201E, 1⟩, ⟨0x85, 0x2026, 1⟩, ⟨0x86, 0x2020, 2⟩, ⟨0x88, 0x2C6, 1⟩, ⟨0x89, 0x2030, 1⟩,
    ⟨0x8A, 0x679, 1⟩, ⟨0x8B, 0x2039, 1⟩, ⟨0x8C, 0x152, 1⟩, ⟨0x8D, 0x686, 1⟩, ⟨0x8E, 0x698, 1⟩,
    ⟨0x8F, 0x688, 1⟩, ⟨0x90, 0x6AF, 1⟩, ⟨0x91, 0x2018, 2⟩, ⟨0x93, 0x201C, 2⟩, ⟨0x95, 0x2022, 1⟩,
    ⟨0x96, 0x2013, 2⟩, ⟨0x98, 0x6A9, 1⟩, ⟨0x99, 0x2122, 1⟩, ⟨0x9A, 0x691, 1⟩, ⟨0x9B, 0x203A, 1⟩,
    ⟨0x9C, 0x153, 1⟩, ⟨0x9D, 0x200C, 2⟩, ⟨0x9F, 0x6BA, 1⟩, ⟨0xA0, 0xA0, 1⟩, ⟨0xA1, 0x60C, 1⟩,
    ⟨0xA2, 0xA2, 8⟩, ⟨0xAA, 0x6BE, 1⟩, ⟨0xAB, 0xAB, 15⟩, ⟨0xBA, 0x61B, 1⟩, ⟨0xBB, 0xBB, 4⟩,
    ⟨0xBF, 0x61F, 1⟩, ⟨0xC0, 0x6C1, 1⟩, ⟨0xC1, 0x621, 22⟩, ⟨0xD7, 0xD7, 1⟩, ⟨0xD8, 0x637, 4⟩,
    ⟨0xDC, 0x640, 4⟩, ⟨0xE0, 0xE0, 1⟩, ⟨0xE1, 0x644, 1⟩, ⟨0xE2, 0xE2, 1⟩, ⟨0xE3, 0x645, 4⟩,
    ⟨0xE7, 0xE7, 5⟩, ⟨0xEC, 0x649, 2⟩, ⟨0xEE, 0xEE, 2⟩, ⟨0xF0, 0x64B, 4⟩, ⟨0xF4, 0xF4, 1⟩,
    ⟨0xF5, 0x64F, 2⟩, ⟨0xF7, 0xF7, 1⟩, ⟨0xF8, 0x651, 1⟩, ⟨0xF9, 0xF9, 1⟩, ⟨0xFA, 0x652, 1⟩,
    ⟨0xFB, 0xFB, 2⟩, ⟨0xFD, 0x200E, 2⟩, ⟨0xFF, 0x6D2, 1⟩])

def cp1257Set : Codec where
  names   := ["cp1257"]
  aliases := ["1257", "windows_1257"]
  charset := .ok (.page [
    ⟨0x00, 0x0, 128⟩, ⟨0x80, 0x20AC, 1⟩, ⟨0x82, 0x201A, 1⟩, ⟨0x84, 0x201E, 1⟩, ⟨0x85, 0x2026, 1⟩,
    ⟨0x86, 0x2020, 2⟩, ⟨0x89, 0x2030, 1⟩, ⟨0x8B, 0x2039, 1⟩, ⟨0x8D, 0xA8, 1⟩, ⟨0x8E, 0x2C7, 1⟩,
    ⟨0x8F, 0xB8, 1⟩, ⟨0x91, 0x2018, 2⟩, ⟨0x93, 0x201C, 2⟩, ⟨0x95, 0x2022, 1⟩, ⟨0x96, 0x2013, 2⟩,
    ⟨0x99, 0x2122, 1⟩, ⟨0x9B, 0x203A, 1⟩, ⟨0x9D, 0xAF, 1⟩, ⟨0x9E, 0x2DB, 1⟩, ⟨0xA0, 0xA0, 1⟩,
    ⟨0xA2, 0xA2, 3⟩, ⟨0xA6, 0xA6, 2⟩, ⟨0xA8, 0xD8, 1⟩, ⟨0xA9, 0xA9, 1⟩, ⟨0xAA, 0x156, 1⟩,
    ⟨0xAB, 0xAB, 4⟩, ⟨0xAF, 0xC6, 1⟩, ⟨0xB0, 0xB0, 8⟩, ⟨0xB8, 0xF8, 1⟩, ⟨0xB9, 0xB9, 1⟩,
    ⟨0xBA, 0x157, 1⟩, ⟨0xBB, 0xBB, 4⟩, ⟨0xBF, 0xE6, 1⟩, ⟨0xC0, 0x104, 1⟩, ⟨0xC1, 0x12E, 1⟩,
    ⟨0xC2, 0x100, 1⟩, ⟨0xC3, 0x106, 1⟩, ⟨0xC4, 0xC4, 2⟩, ⟨0xC6, 0x118, 1⟩, ⟨0xC7, 0x112, 1⟩,
    ⟨0xC8, 0x10C, 1⟩, ⟨0xC9, 0xC9, 1⟩, ⟨0xCA, 0x179, 1⟩, ⟨0xCB, 0x116, 1⟩, ⟨0xCC, 0x122, 1⟩,
    ⟨0xCD, 0x136, 1⟩, ⟨0xCE, 0x12A, 1⟩, ⟨0xCF, 0x13B, 1⟩, ⟨0xD0, 0x160, 1⟩, ⟨0xD1, 0x143, 1⟩,
    ⟨0xD2, 0x145, 1⟩, ⟨0xD3, 0xD3, 1⟩, ⟨0xD4, 0x14C, 1⟩, ⟨0xD5, 0xD5, 3⟩, ⟨0xD8, 0x172, 1⟩,
    ⟨0xD9, 0x141, 1⟩, ⟨0xDA, 0x15A, 1⟩, ⟨0xDB, 0x16A, 1⟩, ⟨0xDC, 0xDC, 1⟩, ⟨0xDD, 0x17B, 1⟩,
    ⟨0xDE, 0x17D, 1⟩, ⟨0xDF, 0xDF, 1⟩, ⟨0xE0, 0x105, 1⟩, ⟨0xE1, 0x12F, 1⟩, ⟨0xE2, 0x101, 1⟩,
    ⟨0xE3, 0x107, 1⟩, ⟨0xE4, 0xE4, 2⟩, ⟨0xE6, 0x119, 1⟩, ⟨0xE7, 0x113, 1⟩, ⟨0xE8, 0x10D, 1⟩,
    ⟨0xE9, 0xE9, 1⟩, ⟨0xEA, 0x17A, 1⟩, ⟨0xEB, 0x117, 1⟩, ⟨0xEC, 0x123, 1⟩, ⟨0xED, 0x137, 1⟩,
    ⟨0xEE, 0x12B, 1⟩, ⟨0xEF, 0x13C, 1⟩, ⟨0xF0, 0x161, 1⟩, ⟨0xF1, 0x144, 1⟩, ⟨0xF2, 0x146, 1⟩,
    ⟨0xF3, 0xF3, 1⟩, ⟨0xF4, 0x14D, 1⟩, ⟨0xF5, 0xF5, 3⟩, ⟨0xF8, 0x173, 1⟩, ⟨0xF9, 0x142, 1⟩,
    ⟨0xFA, 0x15B, 1⟩, ⟨0xFB, 0x16B, 1⟩, ⟨0xFC, 0xFC, 1⟩, ⟨0xFD, 0x17C, 1⟩, ⟨0xFE, 0x17E, 1⟩,
    ⟨0xFF, 0x2D9, 1⟩])

def cp1258Set : Codec where
  names   := ["cp1258"]
  aliases := ["1258", "windows_1258"]
  charset := .ok (.page [
    ⟨0x00, 0x0, 128⟩, ⟨0x80, 0x20AC, 1⟩, ⟨0x82, 0x201A, 1⟩, ⟨0x83, 0x192, 1⟩, ⟨0x84, 0x201E, 1⟩,
    ⟨0x85, 0x2026, 1⟩, ⟨0x86, 0x2020, 2⟩, ⟨0x88, 0x2C6, 1⟩, ⟨0x89, 0x2030, 1⟩, ⟨0x8B, 0x2039, 1⟩,
    ⟨0x8C, 0x152, 1⟩, ⟨0x91, 0x2018, 2⟩, ⟨0x93, 0x201C, 2⟩, ⟨0x95, 0x2022, 1⟩, ⟨0x96, 0x2013, 2⟩,
    ⟨0x98, 0x2DC, 1⟩, ⟨0x99, 0x2122, 1⟩, ⟨0x9B, 0x203A, 1⟩, ⟨0x9C, 0x153, 1⟩, ⟨0x9F, 0x178, 1⟩,
    ⟨0xA0, 0xA0, 35⟩, ⟨0xC3, 0x102, 1⟩, ⟨0xC4, 0xC4, 8⟩, ⟨0xCC, 0x300, 1⟩, ⟨0xCD, 0xCD, 3⟩,
    ⟨0xD0, 0x110, 1⟩, ⟨0xD1, 0xD1, 1⟩, ⟨0xD2, 0x309, 1⟩, ⟨0xD3, 0xD3, 2⟩, ⟨0xD5, 0x1A0, 1⟩,
    ⟨0xD6, 0xD6, 7⟩, ⟨0xDD, 0x1AF, 1⟩, ⟨0xDE, 0x303, 1⟩, ⟨0xDF, 0xDF, 4⟩, ⟨0xE3, 0x103, 1⟩,
    ⟨0xE4, 0xE4, 8⟩, ⟨0xEC, 0x301, 1⟩, ⟨0xED, 0xED, 3⟩, ⟨0xF0, 0x111, 1⟩, ⟨0xF1, 0xF1, 1⟩,
    ⟨0xF2, 0x323, 1⟩, ⟨0xF3, 0xF3, 2⟩, ⟨0xF5, 0x1A1, 1⟩, ⟨0xF6, 0xF6, 7⟩, ⟨0xFD, 0x1B0, 1⟩,
    ⟨0xFE, 0x20AB, 1⟩, ⟨0xFF, 0xFF, 1⟩])

def cp437Set : Codec where
  names   := ["cp437"]
  aliases := ["437", "cspc8codepage437", "ibm437"]
  charset := .ok (.page [
    ⟨0x00, 0x0, 128⟩, ⟨0x80, 0xC7, 1⟩, ⟨0x81, 0xFC, 1⟩, ⟨0x82, 0xE9, 1⟩, ⟨0x83, 0xE2, 1⟩,
    ⟨0x84, 0xE4, 1⟩, ⟨0x85, 0xE0, 1⟩, ⟨0x86, 0xE5, 1⟩, ⟨0x87, 0xE7, 1⟩, ⟨0x88, 0xEA, 2⟩,
    ⟨0x8A, 0xE8, 1⟩, ⟨0x8B, 0xEF, 1⟩, ⟨0x8C, 0xEE, 1⟩, ⟨0x8D, 0xEC, 1⟩, ⟨0x8E, 0xC4, 2⟩,
    ⟨0x90, 0xC9, 1⟩, ⟨0x91, 0xE6, 1⟩, ⟨0x92, 0xC6, 1⟩, ⟨0x93, 0xF4, 1⟩, ⟨0x94, 0xF6, 1⟩,
    ⟨0x95, 0xF2, 1⟩, ⟨0x96, 0xFB, 1⟩, ⟨0x97, 0xF9, 1⟩, ⟨0x98, 0xFF, 1⟩, ⟨0x99, 0xD6, 1⟩,
    ⟨0x9A, 0xDC, 1⟩, ⟨0x9B, 0xA2, 2⟩, ⟨0x9D, 0xA5, 1⟩, ⟨0x9E, 0x20A7, 1⟩, ⟨0x9F, 0x192, 1⟩,
    ⟨0xA0, 0xE1, 1⟩, ⟨0xA1, 0xED, 1⟩, ⟨0xA2, 0xF3, 1⟩, ⟨0xA3, 0xFA, 1⟩, ⟨0xA4, 0xF1, 1⟩,
    ⟨0xA5, 0xD1, 1⟩, ⟨0xA6, 0xAA, 1⟩, ⟨0xA7, 0xBA, 1⟩, ⟨0xA8, 0xBF, 1⟩, ⟨0xA9, 0x2310, 1⟩,
    ⟨0xAA, 0xAC, 1⟩, ⟨0xAB, 0xBD, 1⟩, ⟨0xAC, 0xBC, 1⟩, ⟨0xAD, 0xA1, 1⟩, ⟨0xAE, 0xAB, 1⟩,
    ⟨0xAF, 0xBB, 1⟩, ⟨0xB0, 0x2591, 3⟩, ⟨0xB3, 0x2502, 1⟩, ⟨0xB4, 0x2524, 1⟩, ⟨0xB5, 0x2561, 2⟩,
    ⟨0xB7, 0x2556, 1⟩, ⟨0xB8, 0x2555, 1⟩, ⟨0xB9, 0x2563, 1⟩, ⟨0xBA, 0x2551, 1⟩, ⟨0xBB, 0x2557, 1⟩,
    ⟨0xBC, 0x255D, 1⟩, ⟨0xBD, 0x255C, 1⟩, ⟨0xBE, 0x255B, 1⟩, ⟨0xBF, 0x2510, 1⟩, ⟨0xC0, 0x2514, 1⟩,
    ⟨0xC1, 0x2534, 1⟩, ⟨0xC2, 0x252C, 1⟩, ⟨0xC3, 0x251C, 1⟩, ⟨0xC4, 0x2500, 1⟩, ⟨0xC5, 0x253C, 1⟩,
    ⟨0xC6, 0x255E, 2⟩, ⟨0xC8, 0x255A, 1⟩, ⟨0xC9, 0x2554, 1⟩, ⟨0xCA, 0x2569, 1⟩, ⟨0xCB, 0x2566, 1⟩,
    ⟨0xCC, 0x2560, 1⟩, ⟨0xCD, 0x2550, 1⟩, ⟨0xCE, 0x256C, 1⟩, ⟨0xCF, 0x2567, 2⟩, ⟨0xD1, 0x2564, 2⟩,
    ⟨0xD3, 0x2559, 1⟩, ⟨0xD4, 0x2558, 1⟩, ⟨0xD5, 0x2552, 2⟩, ⟨0xD7, 0x256B, 1⟩, ⟨0xD8, 0x256A, 1⟩,
    ⟨0xD9, 0x2518, 1⟩, ⟨0xDA, 0x250C, 1⟩, ⟨0xDB, 0x2588, 1⟩, ⟨0xDC, 0x2584, 1⟩, ⟨0xDD, 0x258C, 1⟩,
    ⟨0xDE, 0x2590, 1⟩, ⟨0xDF, 0x2580, 1⟩, ⟨0xE0, 0x3B1, 1⟩, ⟨0xE1, 0xDF, 1⟩, ⟨0xE2, 0x393, 1⟩,
    ⟨0xE3, 0x3C0, 1⟩, ⟨0xE4, 0x3A3, 1⟩, ⟨0xE5, 0x3C3, 1⟩, ⟨0xE6, 0xB5, 1⟩, ⟨0xE7, 0x3C4, 1⟩,
    ⟨0xE8, 0x3A6, 1⟩, ⟨0xE9, 0x398, 1⟩, ⟨0xEA, 0x3A9, 1⟩, ⟨0xEB, 0x3B4, 1⟩, ⟨0xEC, 0x221E, 1⟩,
    ⟨0xED, 0x3C6, 1⟩, ⟨0xEE, 0x3B5, 1⟩, ⟨0xEF, 0x2229, 1⟩, ⟨0xF0, 0x2261, 1⟩, ⟨0xF1, 0xB1, 1⟩,
    ⟨0xF2, 0x2265, 1⟩, ⟨0xF3, 0x2264, 1⟩, ⟨0xF4, 0x2320, 2⟩, ⟨0xF6, 0xF7, 1⟩, ⟨0xF7, 0x2248, 1⟩,
    ⟨0xF8, 0xB0, 1⟩, ⟨0xF9, 0x2219, 1⟩, ⟨0xFA, 0xB7, 1⟩, ⟨0xFB, 0x221A, 1⟩, ⟨0xFC, 0x207F, 1⟩,
    ⟨0xFD, 0xB2, 1⟩, ⟨0xFE, 0x25A0, 1⟩, ⟨0xFF, 0xA0, 1⟩])

def cp720Set : Codec where
  names   := ["cp720"]
  charset := .ok (.page [
    ⟨0x00, 0x0, 130⟩, ⟨0x82, 0xE9, 1⟩, ⟨0x83, 0xE2, 1⟩, ⟨0x84, 0x84, 1⟩, ⟨0x85, 0xE0, 1⟩,
    ⟨0x86, 0x86, 1⟩, ⟨0x87, 0xE7, 1⟩, ⟨0x88, 0xEA, 2⟩, ⟨0x8A, 0xE8, 1⟩, ⟨0x8B, 0xEF, 1⟩,
    ⟨0x8C, 0xEE, 1⟩, ⟨0x8D, 0x8D, 4⟩, ⟨0x91, 0x651, 2⟩, ⟨0x93, 0xF4, 1⟩, ⟨0x94, 0xA4, 1⟩,
    ⟨0x95, 0x640, 1⟩, ⟨0x96, 0xFB, 1⟩, ⟨0x97, 0xF9, 1⟩, ⟨0x98, 0x621, 4⟩, ⟨0x9C, 0xA3, 1⟩,
    ⟨0x9D, 0x625, 17⟩, ⟨0xAE, 0xAB, 1⟩, ⟨0xAF, 0xBB, 1⟩, ⟨0xB0, 0x2591, 3⟩, ⟨0xB3, 0x2502, 1⟩,
    ⟨0xB4, 0x2524, 1⟩, ⟨0xB5, 0x2561, 2⟩, ⟨0xB7, 0x2556, 1⟩, ⟨0xB8, 0x2555, 1⟩, ⟨0xB9, 0x2563, 1⟩,
    ⟨0xBA, 0x2551, 1⟩, ⟨0xBB, 0x2557, 1⟩, ⟨0xBC, 0x255D, 1⟩, ⟨0xBD, 0x255C, 1⟩, ⟨0xBE, 0x255B, 1⟩,
    ⟨0xBF, 0x2510, 1⟩, ⟨0xC0, 0x2514, 1⟩, ⟨0xC1, 0x2534, 1⟩, ⟨0xC2, 0x252C, 1⟩, ⟨0xC3, 0x251C, 1⟩,
    ⟨0xC4, 0x2500, 1⟩, ⟨0xC5, 0x253C, 1⟩, ⟨0xC6, 0x255E, 2⟩, ⟨0xC8, 0x255A, 1⟩, ⟨0xC9, 0x2554, 1⟩,
    ⟨0xCA, 0x2569, 1⟩, ⟨0xCB, 0x2566, 1⟩, ⟨0xCC, 0x2560, 1⟩, ⟨0xCD, 0x2550, 1⟩, ⟨0xCE, 0x256C, 1⟩,
    ⟨0xCF, 0x2567, 2⟩, ⟨0xD1, 0x2564, 2⟩, ⟨0xD3, 0x2559, 1⟩, ⟨0xD4, 0x2558, 1⟩, ⟨0xD5, 0x2552, 2⟩,
    ⟨0xD7, 0x256B, 1⟩, ⟨0xD8, 0x256A, 1⟩, ⟨0xD9, 0x2518, 1⟩, ⟨0xDA, 0x250C, 1⟩, ⟨0xDB, 0x2588, 1⟩,
    ⟨0xDC, 0x2584, 1⟩, ⟨0xDD, 0x258C, 1⟩, ⟨0xDE, 0x2590, 1⟩, ⟨0xDF, 0x2580, 1⟩, ⟨0xE0, 0x636, 5⟩,
    ⟨0xE5, 0x641, 1⟩, ⟨0xE6, 0xB5, 1⟩, ⟨0xE7, 0x642, 9⟩, ⟨0xF0, 0x2261, 1⟩, ⟨0xF1, 0x64B, 6⟩,
    ⟨0xF7, 0x2248, 1⟩, ⟨0xF8, 0xB0, 1⟩, ⟨0xF9, 0x2219, 1⟩, ⟨0xFA, 0xB7, 1⟩, ⟨0xFB, 0x221A, 1⟩,
    ⟨0xFC, 0x207F, 1⟩, ⟨0xFD, 0xB2, 1⟩, ⟨0xFE, 0x25A0, 1⟩, ⟨0xFF, 0xA0, 1⟩])

def cp737Set : Codec where
  names   := ["cp737"]
  charset := .ok (.page [
    ⟨0x00, 0x0, 128⟩, ⟨0x80, 0x391, 17⟩, ⟨0x91, 0x3A3, 7⟩, ⟨0x98, 0x3B1, 17⟩, ⟨0xA9, 0x3C3, 1⟩,
    ⟨0xAA, 0x3C2, 1⟩, ⟨0xAB, 0x3C4, 5⟩, ⟨0xB0, 0x2591, 3⟩, ⟨0xB3, 0x2502, 1⟩, ⟨0xB4, 0x2524, 1⟩,
    ⟨0xB5, 0x2561, 2⟩, ⟨0xB7, 0x2556, 1⟩, ⟨0xB8, 0x2555, 1⟩, ⟨0xB9, 0x2563, 1⟩, ⟨0xBA, 0x2551, 1⟩,
    ⟨0xBB, 0x2557, 1⟩, ⟨0xBC, 0x255D, 1⟩, ⟨0xBD, 0x255C, 1⟩, ⟨0xBE, 0x255B, 1⟩, ⟨0xBF, 0x2510, 1⟩,
    ⟨0xC0, 0x2514, 1⟩, ⟨0xC1, 0x2534, 1⟩, ⟨0xC2, 0x252C, 1⟩, ⟨0xC3, 0x251C, 1⟩, ⟨0xC4, 0x2500, 1⟩,
    ⟨0xC5, 0x253C, 1⟩, ⟨0xC6, 0x255E, 2⟩, ⟨0xC8, 0x255A, 1⟩, ⟨0xC9, 0x2554, 1⟩, ⟨0xCA, 0x2569, 1⟩,
    ⟨0xCB, 0x2566, 1⟩, ⟨0xCC, 0x2560, 1⟩, ⟨0xCD, 0x2550, 1⟩, ⟨0xCE, 0x256C, 1⟩, ⟨0xCF, 0x2567, 2⟩,
    ⟨0xD1, 0x2564, 2⟩, ⟨0xD3, 0x2559, 1⟩, ⟨0xD4, 0x2558, 1⟩, ⟨0xD5, 0x2552, 2⟩, ⟨0xD7, 0x256B, 1⟩,
    ⟨0xD8, 0x256A, 1⟩, ⟨0xD9, 0x2518, 1⟩, ⟨0xDA, 0x250C, 1⟩, ⟨0xDB, 0x2588, 1⟩, ⟨0xDC, 0x2584, 1⟩,
    ⟨0xDD, 0x258C, 1⟩, ⟨0xDE, 0x2590, 1⟩, ⟨0xDF, 0x2580, 1⟩, ⟨0xE0, 0x3C9, 1⟩, ⟨0xE1, 0x3AC, 3⟩,
    ⟨0xE4, 0x3CA, 1⟩, ⟨0xE5, 0x3AF, 1⟩, ⟨0xE6, 0x3CC, 2⟩, ⟨0xE8, 0x3CB, 1⟩, ⟨0xE9, 0x3CE, 1⟩,
    ⟨0xEA, 0x386, 1⟩, ⟨0xEB, 0x388, 3⟩, ⟨0xEE, 0x38C, 1⟩, ⟨0xEF, 0x38E, 2⟩, ⟨0xF1, 0xB1, 1⟩,
    ⟨0xF2, 0x2265, 1⟩, ⟨0xF3, 0x2264, 1⟩, ⟨0xF4, 0x3AA, 2⟩, ⟨0xF6, 0xF7, 1⟩, ⟨0xF7, 0x2248, 1⟩,
    ⟨0xF8, 0xB0, 1⟩, ⟨0xF9, 0x2219, 1⟩, ⟨0xFA, 0xB7, 1⟩, ⟨0xFB, 0x221A, 1⟩, ⟨0xFC, 0x207F, 1⟩,
    ⟨0xFD, 0xB2, 1⟩, ⟨0xFE, 0x25A0, 1⟩, ⟨0xFF, 0xA0, 1⟩])

def cp775Set : Codec where
  names   := ["cp775"]
  aliases := ["775", "cspc775baltic", "ibm775"]
  charset := .ok (.page [
    ⟨0x00, 0x0, 128⟩, ⟨0x80, 0x106, 1⟩, ⟨0x81, 0xFC, 1⟩, ⟨0x82, 0xE9, 1⟩, ⟨0x83, 0x101, 1⟩,
    ⟨0x84, 0xE4, 1⟩, ⟨0x85, 0x123, 1⟩, ⟨0x86, 0xE5, 1⟩, ⟨0x87, 0x107, 1⟩, ⟨0x88, 0x142, 1⟩,
    ⟨0x89, 0x113, 1⟩, ⟨0x8A, 0x156, 2⟩, ⟨0x8C, 0x12B, 1⟩, ⟨0x8D, 0x179, 1⟩, ⟨0x8E, 0xC4, 2⟩,
    ⟨0x90, 0xC9, 1⟩, ⟨0x91, 0xE6, 1⟩, ⟨0x92, 0xC6, 1⟩, ⟨0x93, 0x14D, 1⟩, ⟨0x94, 0xF6, 1⟩,
    ⟨0x95, 0x122, 1⟩, ⟨0x96, 0xA2, 1⟩, ⟨0x97, 0x15A, 2⟩, ⟨0x99, 0xD6, 1⟩, ⟨0x9A, 0xDC, 1⟩,
    ⟨0x9B, 0xF8, 1⟩, ⟨0x9C, 0xA3, 1⟩, ⟨0x9D, 0xD8, 1⟩, ⟨0x9E, 0xD7, 1⟩, ⟨0x9F, 0xA4, 1⟩,
    ⟨0xA0, 0x100, 1⟩, ⟨0xA1, 0x12A, 1⟩, ⟨0xA2, 0xF3, 1⟩, ⟨0xA3, 0x17B, 2⟩, ⟨0xA5, 0x17A, 1⟩,
    ⟨0xA6, 0x201D, 1⟩, ⟨0xA7, 0xA6, 1⟩, ⟨0xA8, 0xA9, 1⟩, ⟨0xA9, 0xAE, 1⟩, ⟨0xAA, 0xAC, 1⟩,
    ⟨0xAB, 0xBD, 1⟩, ⟨0xAC, 0xBC, 1⟩, ⟨0xAD, 0x141, 1⟩, ⟨0xAE, 0xAB, 1⟩, ⟨0xAF, 0xBB, 1⟩,
    ⟨0xB0, 0x2591, 3⟩, ⟨0xB3, 0x2502, 1⟩, ⟨0xB4, 0x2524, 1⟩, ⟨0xB5, 0x104, 1⟩, ⟨0xB6, 0x10C, 1⟩,
    ⟨0xB7, 0x118, 1⟩, ⟨0xB8, 0x116, 1⟩, ⟨0xB9, 0x2563, 1⟩, ⟨0xBA, 0x2551, 1⟩, ⟨0xBB, 0x2557, 1⟩,
    ⟨0xBC, 0x255D, 1⟩, ⟨0xBD, 0x12E, 1⟩, ⟨0xBE, 0x160, 1⟩, ⟨0xBF, 0x2510, 1⟩, ⟨0xC0, 0x2514, 1⟩,
    ⟨0xC1, 0x2534, 1⟩, ⟨0xC2, 0x252C, 1⟩, ⟨0xC3, 0x251C, 1⟩, ⟨0xC4, 0x2500, 1⟩, ⟨0xC5, 0x253C, 1⟩,
    ⟨0xC6, 0x172, 1⟩, ⟨0xC7, 0x16A, 1⟩, ⟨0xC8, 0x255A, 1⟩, ⟨0xC9, 0x2554, 1⟩, ⟨0xCA, 0x2569, 1⟩,
    ⟨0xCB, 0x2566, 1⟩, ⟨0xCC, 0x2560, 1⟩, ⟨0xCD, 0x2550, 1⟩, ⟨0xCE, 0x256C, 1⟩, ⟨0xCF, 0x17D, 1⟩,
    ⟨0xD0, 0x105, 1⟩, ⟨0xD1, 0x10D, 1⟩, ⟨0xD2, 0x119, 1⟩, ⟨0xD3, 0x117, 1⟩, ⟨0xD4, 0x12F, 1⟩,
    ⟨0xD5, 0x161, 1⟩, ⟨0xD6, 0x173, 1⟩, ⟨0xD7, 0x16B, 1⟩, ⟨0xD8, 0x17E, 1⟩, ⟨0xD9, 0x2518, 1⟩,
    ⟨0xDA, 0x250C, 1⟩, ⟨0xDB, 0x2588, 1⟩, ⟨0xDC, 0x2584, 1⟩, ⟨0xDD, 0x258C, 1⟩, ⟨0xDE, 0x2590, 1⟩,
    ⟨0xDF, 0x2580, 1⟩, ⟨0xE0, 0xD3, 1⟩, ⟨0xE1, 0xDF, 1⟩, ⟨0xE2, 0x14C, 1⟩, ⟨0xE3, 0x143, 1⟩,
    ⟨0xE4, 0xF5, 1⟩, ⟨0xE5, 0xD5, 1⟩, ⟨0xE6, 0xB5, 1⟩, ⟨0xE7, 0x144, 1⟩, ⟨0xE8, 0x136, 2⟩,
    ⟨0xEA, 0x13B, 2⟩, ⟨0xEC, 0x146, 1⟩, ⟨0xED, 0x112, 1⟩, ⟨0xEE, 0x145, 1⟩, ⟨0xEF, 0x2019, 1⟩,
    ⟨0xF0, 0xAD, 1⟩, ⟨0xF1, 0xB1, 1⟩, ⟨0xF2, 0x201C, 1⟩, ⟨0xF3, 0xBE, 1⟩, ⟨0xF4, 0xB6, 1⟩,
    ⟨0xF5, 0xA7, 1⟩, ⟨0xF6, 0xF7, 1⟩, ⟨0xF7, 0x201E, 1⟩, ⟨0xF8, 0xB0, 1⟩, ⟨0xF9, 0x2219, 1⟩,
    ⟨0xFA, 0xB7, 1⟩, ⟨0xFB, 0xB9, 1⟩, ⟨0xFC, 0xB3, 1⟩, ⟨0xFD, 0xB2, 1⟩, ⟨0xFE, 0x25A0, 1⟩,
    ⟨0xFF, 0xA0, 1⟩])

def cp850Set : Codec where
  names   := ["cp850"]
  aliases := ["850", "cspc850multilingual", "ibm850"]
  charset := .ok (.page [
    ⟨0x00, 0x0, 128⟩, ⟨0x80, 0xC7, 1⟩, ⟨0x81, 0xFC, 1⟩, ⟨0x82, 0xE9, 1⟩, ⟨0x83, 0xE2, 1⟩,
    ⟨0x84, 0xE4, 1⟩, ⟨0x85, 0xE0, 1⟩, ⟨0x86, 0xE5, 1⟩, ⟨0x87, 0xE7, 1⟩, ⟨0x88, 0xEA, 2⟩,
    ⟨0x8A, 0xE8, 1⟩, ⟨0x8B, 0xEF, 1⟩, ⟨0x8C, 0xEE, 1⟩, ⟨0x8D, 0xEC, 1⟩, ⟨0x8E, 0xC4, 2⟩,
    ⟨0x90, 0xC9, 1⟩, ⟨0x91, 0xE6, 1⟩, ⟨0x92, 0xC6, 1⟩, ⟨0x93, 0xF4, 1⟩, ⟨0x94, 0xF6, 1⟩,
    ⟨0x95, 0xF2, 1⟩, ⟨0x96, 0xFB, 1⟩, ⟨0x97, 0xF9, 1⟩, ⟨0x98, 0xFF, 1⟩, ⟨0x99, 0xD6, 1⟩,
    ⟨0x9A, 0xDC, 1⟩, ⟨0x9B, 0xF8, 1⟩, ⟨0x9C, 0xA3, 1⟩, ⟨0x9D, 0xD8, 1⟩, ⟨0x9E, 0xD7, 1⟩,
    ⟨0x9F, 0x192, 1⟩, ⟨0xA0, 0xE1, 1⟩, ⟨0xA1, 0xED, 1⟩, ⟨0xA2, 0xF3, 1⟩, ⟨0xA3, 0xFA, 1⟩,
    ⟨0xA4, 0xF1, 1⟩, ⟨0xA5, 0xD1, 1⟩, ⟨0xA6, 0xAA, 1⟩, ⟨0xA7, 0xBA, 1⟩, ⟨0xA8, 0xBF, 1⟩,
    ⟨0xA9, 0xAE, 1⟩, ⟨0xAA, 0xAC, 1⟩, ⟨0xAB, 0xBD, 1⟩, ⟨0xAC, 0xBC, 1⟩, ⟨0xAD, 0xA1, 1⟩,
    ⟨0xAE, 0xAB, 1⟩, ⟨0xAF, 0xBB, 1⟩, ⟨0xB0, 0x2591, 3⟩, ⟨0xB3, 0x2502, 1⟩, ⟨0xB4, 0x2524, 1⟩,
    ⟨0xB5, 0xC1, 2⟩, ⟨0xB7, 0xC0, 1⟩, ⟨0xB8, 0xA9, 1⟩, ⟨0xB9, 0x2563, 1⟩, ⟨0xBA, 0x2551, 1⟩,
    ⟨0xBB, 0x2557, 1⟩, ⟨0xBC, 0x255D, 1⟩, ⟨0xBD, 0xA2, 1⟩, ⟨0xBE, 0xA5, 1⟩, ⟨0xBF, 0x2510, 1⟩,
    ⟨0xC0, 0x2514, 1⟩, ⟨0xC1, 0x2534, 1⟩, ⟨0xC2, 0x252C, 1⟩, ⟨0xC3, 0x251C, 1⟩, ⟨0xC4, 0x2500, 1⟩,
    ⟨0xC5, 0x253C, 1⟩, ⟨0xC6, 0xE3, 1⟩, ⟨0xC7, 0xC3, 1⟩, ⟨0xC8, 0x255A, 1⟩, ⟨0xC9, 0x2554, 1⟩,
    ⟨0xCA, 0x2569, 1⟩, ⟨0xCB, 0x2566, 1⟩, ⟨0xCC, 0x2560, 1⟩, ⟨0xCD, 0x2550, 1⟩, ⟨0xCE, 0x256C, 1⟩,
    ⟨0xCF, 0xA4, 1⟩, ⟨0xD0, 0xF0, 1⟩, ⟨0xD1, 0xD0, 1⟩, ⟨0xD2, 0xCA, 2⟩, ⟨0xD4, 0xC8, 1⟩,
    ⟨0xD5, 0x131, 1⟩, ⟨0xD6, 0xCD, 3⟩, ⟨0xD9, 0x2518, 1⟩, ⟨0xDA, 0x250C, 1⟩, ⟨0xDB, 0x2588, 1⟩,
    ⟨0xDC, 0x2584, 1⟩, ⟨0xDD, 0xA6, 1⟩, ⟨0xDE, 0xCC, 1⟩, ⟨0xDF, 0x2580, 1⟩, ⟨0xE0, 0xD3, 1⟩,
    ⟨0xE1, 0xDF, 1⟩, ⟨0xE2, 0xD4, 1⟩, ⟨0xE3, 0xD2, 1⟩, ⟨0xE4, 0xF5, 1⟩, ⟨0xE5, 0xD5, 1⟩,
    ⟨0xE6, 0xB5, 1⟩, ⟨0xE7, 0xFE, 1⟩, ⟨0xE8, 0xDE, 1⟩, ⟨0xE9, 0xDA, 2⟩, ⟨0xEB, 0xD9, 1⟩,
    ⟨0xEC, 0xFD, 1⟩, ⟨0xED, 0xDD, 1⟩, ⟨0xEE, 0xAF, 1⟩, ⟨0xEF, 0xB4, 1⟩, ⟨0xF0, 0xAD, 1⟩,
    ⟨0xF1, 0xB1, 1⟩, ⟨0xF2, 0x2017, 1⟩, ⟨0xF3, 0xBE, 1⟩, ⟨0xF4, 0xB6, 1⟩, ⟨0xF5, 0xA7, 1⟩,
    ⟨0xF6, 0xF7, 1⟩, ⟨0xF7, 0xB8, 1⟩, ⟨0xF8, 0xB0, 1⟩, ⟨0xF9, 0xA8, 1⟩, ⟨0xFA, 0xB7, 1⟩,
    ⟨0xFB, 0xB9, 1⟩, ⟨0xFC, 0xB3, 1⟩, ⟨0xFD, 0xB2, 1⟩, ⟨0xFE, 0x25A0, 1⟩, ⟨0xFF, 0xA0, 1⟩])

def cp852Set : Codec where
  names   := ["cp852"]
  aliases := ["852", "cspcp852", "ibm852"]
  charset := .ok (.page [
    ⟨0x00, 0x0, 128⟩, ⟨0x80, 0xC7, 1⟩, ⟨0x81, 0xFC, 1⟩, ⟨0x82, 0xE9, 1⟩, ⟨0x83, 0xE2, 1⟩,
    ⟨0x84, 0xE4, 1⟩, ⟨0x85, 0x16F, 1⟩, ⟨0x86, 0x107, 1⟩, ⟨0x87, 0xE7, 1⟩, ⟨0x88, 0x142, 1⟩,
    ⟨0x89, 0xEB, 1⟩, ⟨0x8A, 0x150, 2⟩, ⟨0x8C, 0xEE, 1⟩, ⟨0x8D, 0x179, 1⟩, ⟨0x8E, 0xC4, 1⟩,
    ⟨0x8F, 0x106, 1⟩, ⟨0x90, 0xC9, 1⟩, ⟨0x91, 0x139, 2⟩, ⟨0x93, 0xF4, 1⟩, ⟨0x94, 0xF6, 1⟩,
    ⟨0x95, 0x13D, 2⟩, ⟨0x97, 0x15A, 2⟩, ⟨0x99, 0xD6, 1⟩, ⟨0x9A, 0xDC, 1⟩, ⟨0x9B, 0x164, 2⟩,
    ⟨0x9D, 0x141, 1⟩, ⟨0x9E, 0xD7, 1⟩, ⟨0x9F, 0x10D, 1⟩, ⟨0xA0, 0xE1, 1⟩, ⟨0xA1, 0xED, 1⟩,
    ⟨0xA2, 0xF3, 1⟩, ⟨0xA3, 0xFA, 1⟩, ⟨0xA4, 0x104, 2⟩, ⟨0xA6, 0x17D, 2⟩, ⟨0xA8, 0x118, 2⟩,
    ⟨0xAA, 0xAC, 1⟩, ⟨0xAB, 0x17A, 1⟩, ⟨0xAC, 0x10C, 1⟩, ⟨0xAD, 0x15F, 1⟩, ⟨0xAE, 0xAB, 1⟩,
    ⟨0xAF, 0xBB, 1⟩, ⟨0xB0, 0x2591, 3⟩, ⟨0xB3, 0x2502, 1⟩, ⟨0xB4, 0x2524, 1⟩, ⟨0xB5, 0xC1, 2⟩,
    ⟨0xB7, 0x11A, 1⟩, ⟨0xB8, 0x15E, 1⟩, ⟨0xB9, 0x2563, 1⟩, ⟨0xBA, 0x2551, 1⟩, ⟨0xBB, 0x2557, 1⟩,
    ⟨0xBC, 0x255D, 1⟩, ⟨0xBD, 0x17B, 2⟩, ⟨0xBF, 0x2510, 1⟩, ⟨0xC0, 0x2514, 1⟩, ⟨0xC1, 0x2534, 1⟩,
    ⟨0xC2, 0x252C, 1⟩, ⟨0xC3, 0x251C, 1⟩, ⟨0xC4, 0x2500, 1⟩, ⟨0xC5, 0x253C, 1⟩, ⟨0xC6, 0x102, 2⟩,
    ⟨0xC8, 0x255A, 1⟩, ⟨0xC9, 0x2554, 1⟩, ⟨0xCA, 0x2569, 1⟩, ⟨0xCB, 0x2566, 1⟩, ⟨0xCC, 0x2560, 1⟩,
    ⟨0xCD, 0x2550, 1⟩, ⟨0xCE, 0x256C, 1⟩, ⟨0xCF, 0xA4, 1⟩, ⟨0xD0, 0x111, 1⟩, ⟨0xD1, 0x110, 1⟩,
    ⟨0xD2, 0x10E, 1⟩, ⟨0xD3, 0xCB, 1⟩, ⟨0xD4, 0x10F, 1⟩, ⟨0xD5, 0x147, 1⟩, ⟨0xD6, 0xCD, 2⟩,
    ⟨0xD8, 0x11B, 1⟩, ⟨0xD9, 0x2518, 1⟩, ⟨0xDA, 0x250C, 1⟩, ⟨0xDB, 0x2588, 1⟩, ⟨0xDC, 0x2584, 1⟩,
    ⟨0xDD, 0x162, 1⟩, ⟨0xDE, 0x16E, 1⟩, ⟨0xDF, 0x2580, 1⟩, ⟨0xE0, 0xD3, 1⟩, ⟨0xE1, 0xDF, 1⟩,
    ⟨0xE2, 0xD4, 1⟩, ⟨0xE3, 0x143, 2⟩, ⟨0xE5, 0x148, 1⟩, ⟨0xE6, 0x160, 2⟩, ⟨0xE8, 0x154, 1⟩,
    ⟨0xE9, 0xDA, 1⟩, ⟨0xEA, 0x155, 1⟩, ⟨0xEB, 0x170, 1⟩, ⟨0xEC, 0xFD, 1⟩, ⟨0xED, 0xDD, 1⟩,
    ⟨0xEE, 0x163, 1⟩, ⟨0xEF, 0xB4, 1⟩, ⟨0xF0, 0xAD, 1⟩, ⟨0xF1, 0x2DD, 1⟩, ⟨0xF2, 0x2DB, 1⟩,
    ⟨0xF3, 0x2C7, 1⟩, ⟨0xF4, 0x2D8, 1⟩, ⟨0xF5, 0xA7, 1⟩, ⟨0xF6, 0xF7, 1⟩, ⟨0xF7, 0xB8, 1⟩,
    ⟨0xF8, 0xB0, 1⟩, ⟨0xF9, 0xA8, 1⟩, ⟨0xFA, 0x2D9, 1⟩, ⟨0xFB, 0x171, 1⟩, ⟨0xFC, 0x158, 2⟩,
    ⟨0xFE, 0x25A0, 1⟩, ⟨0xFF, 0xA0, 1⟩])

def cp855Set : Codec where
  names   := ["cp855"]
  aliases := ["855", "csibm855", "ibm855"]
  charset := .ok (.page [
    ⟨0x00, 0x0, 128⟩, ⟨0x80, 0x452, 1⟩, ⟨0x81, 0x402, 1⟩, ⟨0x82, 0x453, 1⟩, ⟨0x83, 0x403, 1⟩,
    ⟨0x84, 0x451, 1⟩, ⟨0x85, 0x401, 1⟩, ⟨0x86, 0x454, 1⟩, ⟨0x87, 0x404, 1⟩, ⟨0x88, 0x455, 1⟩,
    ⟨0x89, 0x405, 1⟩, ⟨0x8A, 0x456, 1⟩, ⟨0x8B, 0x406, 1⟩, ⟨0x8C, 0x457, 1⟩, ⟨0x8D, 0x407, 1⟩,
    ⟨0x8E, 0x458, 1⟩, ⟨0x8F, 0x408, 1⟩, ⟨0x90, 0x459, 1⟩, ⟨0x91, 0x409, 1⟩, ⟨0x92, 0x45A, 1⟩,
    ⟨0x93, 0x40A, 1⟩, ⟨0x94, 0x45B, 1⟩, ⟨0x95, 0x40B, 1⟩, ⟨0x96, 0x45C, 1⟩, ⟨0x97, 0x40C, 1⟩,
    ⟨0x98, 0x45E, 1⟩, ⟨0x99, 0x40E, 1⟩, ⟨0x9A, 0x45F, 1⟩, ⟨0x9B, 0x40F, 1⟩, ⟨0x9C, 0x44E, 1⟩,
    ⟨0x9D, 0x42E, 1⟩, ⟨0x9E, 0x44A, 1⟩, ⟨0x9F, 0x42A, 1⟩, ⟨0xA0, 0x430, 1⟩, ⟨0xA1, 0x410, 1⟩,
    ⟨0xA2, 0x431, 1⟩, ⟨0xA3, 0x411, 1⟩, ⟨0xA4, 0x446, 1⟩, ⟨0xA5, 0x426, 1⟩, ⟨0xA6, 0x434, 1⟩,
    ⟨0xA7, 0x414, 1⟩, ⟨0xA8, 0x435, 1⟩, ⟨0xA9, 0x415, 1⟩, ⟨0xAA, 0x444, 1⟩, ⟨0xAB, 0x424, 1⟩,
    ⟨0xAC, 0x433, 1⟩, ⟨0xAD, 0x413, 1⟩, ⟨0xAE, 0xAB, 1⟩, ⟨0xAF, 0xBB, 1⟩, ⟨0xB0, 0x2591, 3⟩,
    ⟨0xB3, 0x2502, 1⟩, ⟨0xB4, 0x2524, 1⟩, ⟨0xB5, 0x445, 1⟩, ⟨0xB6, 0x425, 1⟩, ⟨0xB7, 0x438, 1⟩,
    ⟨0xB8, 0x418, 1⟩, ⟨0xB9, 0x2563, 1⟩, ⟨0xBA, 0x2551, 1⟩, ⟨0xBB, 0x2557, 1⟩, ⟨0xBC, 0x255D, 1⟩,
    ⟨0xBD, 0x439, 1⟩, ⟨0xBE, 0x419, 1⟩, ⟨0xBF, 0x2510, 1⟩, ⟨0xC0, 0x2514, 1⟩, ⟨0xC1, 0x2534, 1⟩,
    ⟨0xC2, 0x252C, 1⟩, ⟨0xC3, 0x251C, 1⟩, ⟨0xC4, 0x2500, 1⟩, ⟨0xC5, 0x253C, 1⟩, ⟨0xC6, 0x43A, 1⟩,
    ⟨0xC7, 0x41A, 1⟩, ⟨0xC8, 0x255A, 1⟩, ⟨0xC9, 0x2554, 1⟩, ⟨0xCA, 0x2569, 1⟩, ⟨0xCB, 0x2566, 1⟩,
    ⟨0xCC, 0x2560, 1⟩, ⟨0xCD, 0x2550, 1⟩, ⟨0xCE, 0x256C, 1⟩, ⟨0xCF, 0xA4, 1⟩, ⟨0xD0, 0x43B, 1⟩,
    ⟨0xD1, 0x41B, 1⟩, ⟨0xD2, 0x43C, 1⟩, ⟨0xD3, 0x41C, 1⟩, ⟨0xD4, 0x43D, 1⟩, ⟨0xD5, 0x41D, 1⟩,
    ⟨0xD6, 0x43E, 1⟩, ⟨0xD7, 0x41E, 1⟩, ⟨0xD8, 0x43F, 1⟩, ⟨0xD9, 0x2518, 1⟩, ⟨0xDA, 0x250C, 1⟩,
    ⟨0xDB, 0x2588, 1⟩, ⟨0xDC, 0x2584, 1⟩, ⟨0xDD, 0x41F, 1⟩, ⟨0xDE, 0x44F, 1⟩, ⟨0xDF, 0x2580, 1⟩,
    ⟨0xE0, 0x42F, 1⟩, ⟨0xE1, 0x440, 1⟩, ⟨0xE2, 0x420, 1⟩, ⟨0xE3, 0x441, 1⟩, ⟨0xE4, 0x421, 1⟩,
    ⟨0xE5, 0x442, 1⟩, ⟨0xE6, 0x422, 1⟩, ⟨0xE7, 0x443, 1⟩, ⟨0xE8, 0x423, 1⟩, ⟨0xE9, 0x436, 1⟩,
    ⟨0xEA, 0x416, 1⟩, ⟨0xEB, 0x432, 1⟩, ⟨0xEC, 0x412, 1⟩, ⟨0xED, 0x44C, 1⟩, ⟨0xEE, 0x42C, 1⟩,
    ⟨0xEF, 0x2116, 1⟩, ⟨0xF0, 0xAD, 1⟩, ⟨0xF1, 0x44B, 1⟩, ⟨0xF2, 0x42B, 1⟩, ⟨0xF3, 0x437, 1⟩,
    ⟨0xF4, 0x417, 1⟩, ⟨0xF5, 0x448, 1⟩, ⟨0xF6, 0x428, 1⟩, ⟨0xF7, 0x44D, 1⟩, ⟨0xF8, 0x42D, 1⟩,
    ⟨0xF9, 0x449, 1⟩, ⟨0xFA, 0x429, 1⟩, ⟨0xFB, 0x447, 1⟩, ⟨0xFC, 0x427, 1⟩, ⟨0xFD, 0xA7, 1⟩,
    ⟨0xFE, 0x25A0, 1⟩, ⟨0xFF, 0xA0, 1⟩])

def cp856Set : Codec where
  names   := ["cp856"]
  charset := .ok (.page [
    ⟨0x00, 0x0, 128⟩, ⟨0x80, 0x5D0, 27⟩, ⟨0x9C, 0xA3, 1⟩, ⟨0x9E, 0xD7, 1⟩, ⟨0xA9, 0xAE, 1⟩,
    ⟨0xAA, 0xAC, 1⟩, ⟨0xAB, 0xBD, 1⟩, ⟨0xAC, 0xBC, 1⟩, ⟨0xAE, 0xAB, 1⟩, ⟨0xAF, 0xBB, 1⟩,
    ⟨0xB0, 0x2591, 3⟩, ⟨0xB3, 0x2502, 1⟩, ⟨0xB4, 0x2524, 1⟩, ⟨0xB8, 0xA9, 1⟩, ⟨0xB9, 0x2563, 1⟩,
    ⟨0xBA, 0x2551, 1⟩, ⟨0xBB, 0x2557, 1⟩, ⟨0xBC, 0x255D, 1⟩, ⟨0xBD, 0xA2, 1⟩, ⟨0xBE, 0xA5, 1⟩,
    ⟨0xBF, 0x2510, 1⟩, ⟨0xC0, 0x2514, 1⟩, ⟨0xC1, 0x2534, 1⟩, ⟨0xC2, 0x252C, 1⟩, ⟨0xC3, 0x251C, 1⟩,
    ⟨0xC4, 0x2500, 1⟩, ⟨0xC5, 0x253C, 1⟩, ⟨0xC8, 0x255A, 1⟩, ⟨0xC9, 0x2554, 1⟩, ⟨0xCA, 0x2569, 1⟩,
    ⟨0xCB, 0x2566, 1⟩, ⟨0xCC, 0x2560, 1⟩, ⟨0xCD, 0x2550, 1⟩, ⟨0xCE, 0x256C, 1⟩, ⟨0xCF, 0xA4, 1⟩,
    ⟨0xD9, 0x2518, 1⟩, ⟨0xDA, 0x250C, 1⟩, ⟨0xDB, 0x2588, 1⟩, ⟨0xDC, 0x2584, 1⟩, ⟨0xDD, 0xA6, 1⟩,
    ⟨0xDF, 0x2580, 1⟩, ⟨0xE6, 0xB5, 1⟩, ⟨0xEE, 0xAF, 1⟩, ⟨0xEF, 0xB4, 1⟩, ⟨0xF0, 0xAD, 1⟩,
    ⟨0xF1, 0xB1, 1⟩, ⟨0xF2, 0x2017, 1⟩, ⟨0xF3, 0xBE, 1⟩, ⟨0xF4, 0xB6, 1⟩, ⟨0xF5, 0xA7, 1⟩,
    ⟨0xF6, 0xF7, 1⟩, ⟨0xF7, 0xB8, 1⟩, ⟨0xF8, 0xB0, 1⟩, ⟨0xF9, 0xA8, 1⟩, ⟨0xFA, 0xB7, 1⟩,
    ⟨0xFB, 0xB9, 1⟩, ⟨0xFC, 0xB3, 1⟩, ⟨0xFD, 0xB2, 1⟩, ⟨0xFE, 0x25A0, 1⟩, ⟨0xFF, 0xA0, 1⟩])

def cp857Set : Codec where
  names   := ["cp857"]
  aliases := ["857", "csibm857", "ibm857"]
  charset := .ok (.page [
    ⟨0x00, 0x0, 128⟩, ⟨0x80, 0xC7, 1⟩, ⟨0x81, 0xFC, 1⟩, ⟨0x82, 0xE9, 1⟩, ⟨0x83, 0xE2, 1⟩,
    ⟨0x84, 0xE4, 1⟩, ⟨0x85, 0xE0, 1⟩, ⟨0x86, 0xE5, 1⟩, ⟨0x87, 0xE7, 1⟩, ⟨0x88, 0xEA, 2⟩,
    ⟨0x8A, 0xE8, 1⟩, ⟨0x8B, 0xEF, 1⟩, ⟨0x8C, 0xEE, 1⟩, ⟨0x8D, 0x131, 1⟩, ⟨0x8E, 0xC4, 2⟩,
    ⟨0x90, 0xC9, 1⟩, ⟨0x91, 0xE6, 1⟩, ⟨0x92, 0xC6, 1⟩, ⟨0x93, 0xF4, 1⟩, ⟨0x94, 0xF6, 1⟩,
    ⟨0x95, 0xF2, 1⟩, ⟨0x96, 0xFB, 1⟩, ⟨0x97, 0xF9, 1⟩, ⟨0x98, 0x130, 1⟩, ⟨0x99, 0xD6, 1⟩,
    ⟨0x9A, 0xDC, 1⟩, ⟨0x9B, 0xF8, 1⟩, ⟨0x9C, 0xA3, 1⟩, ⟨0x9D, 0xD8, 1⟩, ⟨0x9E, 0x15E, 2⟩,
    ⟨0xA0, 0xE1, 1⟩, ⟨0xA1, 0xED, 1⟩, ⟨0xA2, 0xF3, 1⟩, ⟨0xA3, 0xFA, 1⟩, ⟨0xA4, 0xF1, 1⟩,
    ⟨0xA5, 0xD1, 1⟩, ⟨0xA6, 0x11E, 2⟩, ⟨0xA8, 0xBF, 1⟩, ⟨0xA9, 0xAE, 1⟩, ⟨0xAA, 0xAC, 1⟩,
    ⟨0xAB, 0xBD, 1⟩, ⟨0xAC, 0xBC, 1⟩, ⟨0xAD, 0xA1, 1⟩, ⟨0xAE, 0xAB, 1⟩, ⟨0xAF, 0xBB, 1⟩,
    ⟨0xB0, 0x2591, 3⟩, ⟨0xB3, 0x2502, 1⟩, ⟨0xB4, 0x2524, 1⟩, ⟨0xB5, 0xC1, 2⟩, ⟨0xB7, 0xC0, 1⟩,
    ⟨0xB8, 0xA9, 1⟩, ⟨0xB9, 0x2563, 1⟩, ⟨0xBA, 0x2551, 1⟩, ⟨0xBB, 0x2557, 1⟩, ⟨0xBC, 0x255D, 1⟩,
    ⟨0xBD, 0xA2, 1⟩, ⟨0xBE, 0xA5, 1⟩, ⟨0xBF, 0x2510, 1⟩, ⟨0xC0, 0x2514, 1⟩, ⟨0xC1, 0x2534, 1⟩,
    ⟨0xC2, 0x252C, 1⟩, ⟨0xC3, 0x251C, 1⟩, ⟨0xC4, 0x2500, 1⟩, ⟨0xC5, 0x253C, 1⟩, ⟨0xC6, 0xE3, 1⟩,
    ⟨0xC7, 0xC3, 1⟩, ⟨0xC8, 0x255A, 1⟩, ⟨0xC9, 0x2554, 1⟩, ⟨0xCA, 0x2569, 1⟩, ⟨0xCB, 0x2566, 1⟩,
    ⟨0xCC, 0x2560, 1⟩, ⟨0xCD, 0x2550, 1⟩, ⟨0xCE, 0x256C, 1⟩, ⟨0xCF, 0xA4, 1⟩, ⟨0xD0, 0xBA, 1⟩,
    ⟨0xD1, 0xAA, 1⟩, ⟨0xD2, 0xCA, 2⟩, ⟨0xD4, 0xC8, 1⟩, ⟨0xD6, 0xCD, 3⟩, ⟨0xD9, 0x2518, 1⟩,
    ⟨0xDA, 0x250C, 1⟩, ⟨0xDB, 0x2588, 1⟩, ⟨0xDC, 0x2584, 1⟩, ⟨0xDD, 0xA6, 1⟩, ⟨0xDE, 0xCC, 1⟩,
    ⟨0xDF, 0x2580, 1⟩, ⟨0xE0, 0xD3, 1⟩, ⟨0xE1, 0xDF, 1⟩, ⟨0xE2, 0xD4, 1⟩, ⟨0xE3, 0xD2, 1⟩,
    ⟨0xE4, 0xF5, 1⟩, ⟨0xE5, 0xD5, 1⟩, ⟨0xE6, 0xB5, 1⟩, ⟨0xE8, 0xD7, 1⟩, ⟨0xE9, 0xDA, 2⟩,
    ⟨0xEB, 0xD9, 1⟩, ⟨0xEC, 0xEC, 1⟩, ⟨0xED, 0xFF, 1⟩, ⟨0xEE, 0xAF, 1⟩, ⟨0xEF, 0xB4, 1⟩,
    ⟨0xF0, 0xAD, 1⟩, ⟨0xF1, 0xB1, 1⟩, ⟨0xF3, 0xBE, 1⟩, ⟨0xF4, 0xB6, 1⟩, ⟨0xF5, 0xA7, 1⟩,
    ⟨0xF6, 0xF7, 1⟩, ⟨0xF7, 0xB8, 1⟩, ⟨0xF8, 0xB0, 1⟩, ⟨0xF9, 0xA8, 1⟩, ⟨0xFA, 0xB7, 1⟩,
    ⟨0xFB, 0xB9, 1⟩, ⟨0xFC, 0xB3, 1⟩, ⟨0xFD, 0xB2, 1⟩, ⟨0xFE, 0x25A0, 1⟩, ⟨0xFF, 0xA0, 1⟩])

def cp858Set : Codec where
  names   := ["cp858"]
  aliases := ["858", "csibm858", "ibm858"]
  charset := .ok (.page [
    ⟨0x00, 0x0, 128⟩, ⟨0x80, 0xC7, 1⟩, ⟨0x81, 0xFC, 1⟩, ⟨0x82, 0xE9, 1⟩, ⟨0x83, 0xE2, 1⟩,
    ⟨0x84, 0xE4, 1⟩, ⟨0x85, 0xE0, 1⟩, ⟨0x86, 0xE5, 1⟩, ⟨0x87, 0xE7, 1⟩, ⟨0x88, 0xEA, 2⟩,
    ⟨0x8A, 0xE8, 1⟩, ⟨0x8B, 0xEF, 1⟩, ⟨0x8C, 0xEE, 1⟩, ⟨0x8D, 0xEC, 1⟩, ⟨0x8E, 0xC4, 2⟩,
    ⟨0x90, 0xC9, 1⟩, ⟨0x91, 0xE6, 1⟩, ⟨0x92, 0xC6, 1⟩, ⟨0x93, 0xF4, 1⟩, ⟨0x94, 0xF6, 1⟩,
    ⟨0x95, 0xF2, 1⟩, ⟨0x96, 0xFB, 1⟩, ⟨0x97, 0xF9, 1⟩, ⟨0x98, 0xFF, 1⟩, ⟨0x99, 0xD6, 1⟩,
    ⟨0x9A, 0xDC, 1⟩, ⟨0x9B, 0xF8, 1⟩, ⟨0x9C, 0xA3, 1⟩, ⟨0x9D, 0xD8, 1⟩, ⟨0x9E, 0xD7, 1⟩,
    ⟨0x9F, 0x192, 1⟩, ⟨0xA0, 0xE1, 1⟩, ⟨0xA1, 0xED, 1⟩, ⟨0xA2, 0xF3, 1⟩, ⟨0xA3, 0xFA, 1⟩,
    ⟨0xA4, 0xF1, 1⟩, ⟨0xA5, 0xD1, 1⟩, ⟨0xA6, 0xAA, 1⟩, ⟨0xA7, 0xBA, 1⟩, ⟨0xA8, 0xBF, 1⟩,
    ⟨0xA9, 0xAE, 1⟩, ⟨0xAA, 0xAC, 1⟩, ⟨0xAB, 0xBD, 1⟩, ⟨0xAC, 0xBC, 1⟩, ⟨0xAD, 0xA1, 1⟩,
    ⟨0xAE, 0xAB, 1⟩, ⟨0xAF, 0xBB, 1⟩, ⟨0xB0, 0x2591, 3⟩, ⟨0xB3, 0x2502, 1⟩, ⟨0xB4, 0x2524, 1⟩,
    ⟨0xB5, 0xC1, 2⟩, ⟨0xB7, 0xC0, 1⟩, ⟨0xB8, 0xA9, 1⟩, ⟨0xB9, 0x2563, 1⟩, ⟨0xBA, 0x2551, 1⟩,
    ⟨0xBB, 0x2557, 1⟩, ⟨0xBC, 0x255D, 1⟩, ⟨0xBD, 0xA2, 1⟩, ⟨0xBE, 0xA5, 1⟩, ⟨0xBF, 0x2510, 1⟩,
    ⟨0xC0, 0x2514, 1⟩, ⟨0xC1, 0x2534, 1⟩, ⟨0xC2, 0x252C, 1⟩, ⟨0xC3, 0x251C, 1⟩, ⟨0xC4, 0x2500, 1⟩,
    ⟨0xC5, 0x253C, 1⟩, ⟨0xC6, 0xE3, 1⟩, ⟨0xC7, 0xC3, 1⟩, ⟨0xC8, 0x255A, 1⟩, ⟨0xC9, 0x2554, 1⟩,
    ⟨0xCA, 0x2569, 1⟩, ⟨0xCB, 0x2566, 1⟩, ⟨0xCC, 0x2560, 1⟩, ⟨0xCD, 0x2550, 1⟩, ⟨0xCE, 0x256C, 1⟩,
    ⟨0xCF, 0xA4, 1⟩, ⟨0xD0, 0xF0, 1⟩, ⟨0xD1, 0xD0, 1⟩, ⟨0xD2, 0xCA, 2⟩, ⟨0xD4, 0xC8, 1⟩,
    ⟨0xD5, 0x20AC, 1⟩, ⟨0xD6, 0xCD, 3⟩, ⟨0xD9, 0x2518, 1⟩, ⟨0xDA, 0x250C, 1⟩, ⟨0xDB, 0x2588, 1⟩,
    ⟨0xDC, 0x2584, 1⟩, ⟨0xDD, 0xA6, 1⟩, ⟨0xDE, 0xCC, 1⟩, ⟨0xDF, 0x2580, 1⟩, ⟨0xE0, 0xD3, 1⟩,
    ⟨0xE1, 0xDF, 1⟩, ⟨0xE2, 0xD4, 1⟩, ⟨0xE3, 0xD2, 1⟩, ⟨0xE4, 0xF5, 1⟩, ⟨0xE5, 0xD5, 1⟩,
    ⟨0xE6, 0xB5, 1⟩, ⟨0xE7, 0xFE, 1⟩, ⟨0xE8, 0xDE, 1⟩, ⟨0xE9, 0xDA, 2⟩, ⟨0xEB, 0xD9, 1⟩,
    ⟨0xEC, 0xFD, 1⟩, ⟨0xED, 0xDD, 1⟩, ⟨0xEE, 0xAF, 1⟩, ⟨0xEF, 0xB4, 1⟩, ⟨0xF0, 0xAD, 1⟩,
    ⟨0xF1, 0xB1, 1⟩, ⟨0xF2, 0x2017, 1⟩, ⟨0xF3, 0xBE, 1⟩, ⟨0xF4, 0xB6, 1⟩, ⟨0xF5, 0xA7, 1⟩,
    ⟨0xF6, 0xF7, 1⟩, ⟨0xF7, 0xB8, 1⟩, ⟨0xF8, 0xB0, 1⟩, ⟨0xF9, 0xA8, 1⟩, ⟨0xFA, 0xB7, 1⟩,
    ⟨0xFB, 0xB9, 1⟩, ⟨0xFC, 0xB3, 1⟩, ⟨0xFD, 0xB2, 1⟩, ⟨0xFE, 0x25A0, 1⟩, ⟨0xFF, 0xA0, 1⟩])

def cp860Set : Codec where
  names   := ["cp860"]
  aliases := ["860", "csibm860", "ibm860"]
  charset := .ok (.page [
    ⟨0x00, 0x0, 128⟩, ⟨0x80, 0xC7, 1⟩, ⟨0x81, 0xFC, 1⟩, ⟨0x82, 0xE9, 1⟩, ⟨0x83, 0xE2, 2⟩,
    ⟨0x85, 0xE0, 1⟩, ⟨0x86, 0xC1, 1⟩, ⟨0x87, 0xE7, 1⟩, ⟨0x88, 0xEA, 1⟩, ⟨0x89, 0xCA, 1⟩,
    ⟨0x8A, 0xE8, 1⟩, ⟨0x8B, 0xCD, 1⟩, ⟨0x8C, 0xD4, 1⟩, ⟨0x8D, 0xEC, 1⟩, ⟨0x8E, 0xC3, 1⟩,
    ⟨0x8F, 0xC2, 1⟩, ⟨0x90, 0xC9, 1⟩, ⟨0x91, 0xC0, 1⟩, ⟨0x92, 0xC8, 1⟩, ⟨0x93, 0xF4, 2⟩,
    ⟨0x95, 0xF2, 1⟩, ⟨0x96, 0xDA, 1⟩, ⟨0x97, 0xF9, 1⟩, ⟨0x98, 0xCC, 1⟩, ⟨0x99, 0xD5, 1⟩,
    ⟨0x9A, 0xDC, 1⟩, ⟨0x9B, 0xA2, 2⟩, ⟨0x9D, 0xD9, 1⟩, ⟨0x9E, 0x20A7, 1⟩, ⟨0x9F, 0xD3, 1⟩,
    ⟨0xA0, 0xE1, 1⟩, ⟨0xA1, 0xED, 1⟩, ⟨0xA2, 0xF3, 1⟩, ⟨0xA3, 0xFA, 1⟩, ⟨0xA4, 0xF1, 1⟩,
    ⟨0xA5, 0xD1, 1⟩, ⟨0xA6, 0xAA, 1⟩, ⟨0xA7, 0xBA, 1⟩, ⟨0xA8, 0xBF, 1⟩, ⟨0xA9, 0xD2, 1⟩,
    ⟨0xAA, 0xAC, 1⟩, ⟨0xAB, 0xBD, 1⟩, ⟨0xAC, 0xBC, 1⟩, ⟨0xAD, 0xA1, 1⟩, ⟨0xAE, 0xAB, 1⟩,
    ⟨0xAF, 0xBB, 1⟩, ⟨0xB0, 0x2591, 3⟩, ⟨0xB3, 0x2502, 1⟩, ⟨0xB4, 0x2524, 1⟩, ⟨0xB5, 0x2561, 2⟩,
    ⟨0xB7, 0x2556, 1⟩, ⟨0xB8, 0x2555, 1⟩, ⟨0xB9, 0x2563, 1⟩, ⟨0xBA, 0x2551, 1⟩, ⟨0xBB, 0x2557, 1⟩,
    ⟨0xBC, 0x255D, 1⟩, ⟨0xBD, 0x255C, 1⟩, ⟨0xBE, 0x255B, 1⟩, ⟨0xBF, 0x2510, 1⟩, ⟨0xC0, 0x2514, 1⟩,
    ⟨0xC1, 0x2534, 1⟩, ⟨0xC2, 0x252C, 1⟩, ⟨0xC3, 0x251C, 1⟩, ⟨0xC4, 0x2500, 1⟩, ⟨0xC5, 0x253C, 1⟩,
    ⟨0xC6, 0x255E, 2⟩, ⟨0xC8, 0x255A, 1⟩, ⟨0xC9, 0x2554, 1⟩, ⟨0xCA, 0x2569, 1⟩, ⟨0xCB, 0x2566, 1⟩,
    ⟨0xCC, 0x2560, 1⟩, ⟨0xCD, 0x2550, 1⟩, ⟨0xCE, 0x256C, 1⟩, ⟨0xCF, 0x2567, 2⟩, ⟨0xD1, 0x2564, 2⟩,
    ⟨0xD3, 0x2559, 1⟩, ⟨0xD4, 0x2558, 1⟩, ⟨0xD5, 0x2552, 2⟩, ⟨0xD7, 0x256B, 1⟩, ⟨0xD8, 0x256A, 1⟩,
    ⟨0xD9, 0x2518, 1⟩, ⟨0xDA, 0x250C, 1⟩, ⟨0xDB, 0x2588, 1⟩, ⟨0xDC, 0x2584, 1⟩, ⟨0xDD, 0x258C, 1⟩,
    ⟨0xDE, 0x2590, 1⟩, ⟨0xDF, 0x2580, 1⟩, ⟨0xE0, 0x3B1, 1⟩, ⟨0xE1, 0xDF, 1⟩, ⟨0xE2, 0x393, 1⟩,
    ⟨0xE3, 0x3C0, 1⟩, ⟨0xE4, 0x3A3, 1⟩, ⟨0xE5, 0x3C3, 1⟩, ⟨0xE6, 0xB5, 1⟩, ⟨0xE7, 0x3C4, 1⟩,
    ⟨0xE8, 0x3A6, 1⟩, ⟨0xE9, 0x398, 1⟩, ⟨0xEA, 0x3A9, 1⟩, ⟨0xEB, 0x3B4, 1⟩, ⟨0xEC, 0x221E, 1⟩,
    ⟨0xED, 0x3C6, 1⟩, ⟨0xEE, 0x3B5, 1⟩, ⟨0xEF, 0x2229, 1⟩, ⟨0xF0, 0x2261, 1⟩, ⟨0xF1, 0xB1, 1⟩,
    ⟨0xF2, 0x2265, 1⟩, ⟨0xF3, 0x2264, 1⟩, ⟨0xF4, 0x2320, 2⟩, ⟨0xF6, 0xF7, 1⟩, ⟨0xF7, 0x2248, 1⟩,
    ⟨0xF8, 0xB0, 1⟩, ⟨0xF9, 0x2219, 1⟩, ⟨0xFA, 0xB7, 1⟩, ⟨0xFB, 0x221A, 1⟩, ⟨0xFC, 0x207F, 1⟩,
    ⟨0xFD, 0xB2, 1⟩, ⟨0xFE, 0x25A0, 1⟩, ⟨0xFF, 0xA0, 1⟩])

def cp861Set : Codec where
  names   := ["cp861"]
  aliases := ["861", "cp_is", "csibm861", "ibm861"]
  charset := .ok (.page [
    ⟨0x00, 0x0, 128⟩, ⟨0x80, 0xC7, 1⟩, ⟨0x81, 0xFC, 1⟩, ⟨0x82, 0xE9, 1⟩, ⟨0x83, 0xE2, 1⟩,
    ⟨0x84, 0xE4, 1⟩, ⟨0x85, 0xE0, 1⟩, ⟨0x86, 0xE5, 1⟩, ⟨0x87, 0xE7, 1⟩, ⟨0x88, 0xEA, 2⟩,
    ⟨0x8A, 0xE8, 1⟩, ⟨0x8B, 0xD0, 1⟩, ⟨0x8C, 0xF0, 1⟩, ⟨0x8D, 0xDE, 1⟩, ⟨0x8E, 0xC4, 2⟩,
    ⟨0x90, 0xC9, 1⟩, ⟨0x91, 0xE6, 1⟩, ⟨0x92, 0xC6, 1⟩, ⟨0x93, 0xF4, 1⟩, ⟨0x94, 0xF6, 1⟩,
    ⟨0x95, 0xFE, 1⟩, ⟨0x96, 0xFB, 1⟩, ⟨0x97, 0xDD, 1⟩, ⟨0x98, 0xFD, 1⟩, ⟨0x99, 0xD6, 1⟩,
    ⟨0x9A, 0xDC, 1⟩, ⟨0x9B, 0xF8, 1⟩, ⟨0x9C, 0xA3, 1⟩, ⟨0x9D, 0xD8, 1⟩, ⟨0x9E, 0x20A7, 1⟩,
    ⟨0x9F, 0x192, 1⟩, ⟨0xA0, 0xE1, 1⟩, ⟨0xA1, 0xED, 1⟩, ⟨0xA2, 0xF3, 1⟩, ⟨0xA3, 0xFA, 1⟩,
    ⟨0xA4, 0xC1, 1⟩, ⟨0xA5, 0xCD, 1⟩, ⟨0xA6, 0xD3, 1⟩, ⟨0xA7, 0xDA, 1⟩, ⟨0xA8, 0xBF, 1⟩,
    ⟨0xA9, 0x2310, 1⟩, ⟨0xAA, 0xAC, 1⟩, ⟨0xAB, 0xBD, 1⟩, ⟨0xAC, 0xBC, 1⟩, ⟨0xAD, 0xA1, 1⟩,
    ⟨0xAE, 0xAB, 1⟩, ⟨0xAF, 0xBB, 1⟩, ⟨0xB0, 0x2591, 3⟩, ⟨0xB3, 0x2502, 1⟩, ⟨0xB4, 0x2524, 1⟩,
    ⟨0xB5, 0x2561, 2⟩, ⟨0xB7, 0x2556, 1⟩, ⟨0xB8, 0x2555, 1⟩, ⟨0xB9, 0x2563, 1⟩, ⟨0xBA, 0x2551, 1⟩,
    ⟨0xBB, 0x2557, 1⟩, ⟨0xBC, 0x255D, 1⟩, ⟨0xBD, 0x255C, 1⟩, ⟨0xBE, 0x255B, 1⟩, ⟨0xBF, 0x2510, 1⟩,
    ⟨0xC0, 0x2514, 1⟩, ⟨0xC1, 0x2534, 1⟩, ⟨0xC2, 0x252C, 1⟩, ⟨0xC3, 0x251C, 1⟩, ⟨0xC4, 0x2500, 1⟩,
    ⟨0xC5, 0x253C, 1⟩, ⟨0xC6, 0x255E, 2⟩, ⟨0xC8, 0x255A, 1⟩, ⟨0xC9, 0x2554, 1⟩, ⟨0xCA, 0x2569, 1⟩,
    ⟨0xCB, 0x2566, 1⟩, ⟨0xCC, 0x2560, 1⟩, ⟨0xCD, 0x2550, 1⟩, ⟨0xCE, 0x256C, 1⟩, ⟨0xCF, 0x2567, 2⟩,
    ⟨0xD1, 0x2564, 2⟩, ⟨0xD3, 0x2559, 1⟩, ⟨0xD4, 0x2558, 1⟩, ⟨0xD5, 0x2552, 2⟩, ⟨0xD7, 0x256B, 1⟩,
    ⟨0xD8, 0x256A, 1⟩, ⟨0xD9, 0x2518, 1⟩, ⟨0xDA, 0x250C, 1⟩, ⟨0xDB, 0x2588, 1⟩, ⟨0xDC, 0x2584, 1⟩,
    ⟨0xDD, 0x258C, 1⟩, ⟨0xDE, 0x2590, 1⟩, ⟨0xDF, 0x2580, 1⟩, ⟨0xE0, 0x3B1, 1⟩, ⟨0xE1, 0xDF, 1⟩,
    ⟨0xE2, 0x393, 1⟩, ⟨0xE3, 0x3C0, 1⟩, ⟨0xE4, 0x3A3, 1⟩, ⟨0xE5, 0x3C3, 1⟩, ⟨0xE6, 0xB5, 1⟩,
    ⟨0xE7, 0x3C4, 1⟩, ⟨0xE8, 0x3A6, 1⟩, ⟨0xE9, 0x398, 1⟩, ⟨0xEA, 0x3A9, 1⟩, ⟨0xEB, 0x3B4, 1⟩,
    ⟨0xEC, 0x221E, 1⟩, ⟨0xED, 0x3C6, 1⟩, ⟨0xEE, 0x3B5, 1⟩, ⟨0xEF, 0x2229, 1⟩, ⟨0xF0, 0x2261, 1⟩,
    ⟨0xF1, 0xB1, 1⟩, ⟨0xF2, 0x2265, 1⟩, ⟨0xF3, 0x2264, 1⟩, ⟨0xF4, 0x2320, 2⟩, ⟨0xF6, 0xF7, 1⟩,
    ⟨0xF7, 0x2248, 1⟩, ⟨0xF8, 0xB0, 1⟩, ⟨0xF9, 0x2219, 1⟩, ⟨0xFA, 0xB7, 1⟩, ⟨0xFB, 0x221A, 1⟩,
    ⟨0xFC, 0x207F, 1⟩, ⟨0xFD, 0xB2, 1⟩, ⟨0xFE, 0x25A0, 1⟩, ⟨0xFF, 0xA0, 1⟩])

def cp862Set : Codec where
  names   := ["cp862"]
  aliases := ["862", "cspc862latinhebrew", "ibm862"]
  charset := .ok (.page [
    ⟨0x00, 0x0, 128⟩, ⟨0x80, 0x5D0, 27⟩, ⟨0x9B, 0xA2, 2⟩, ⟨0x9D, 0xA5, 1⟩, ⟨0x9E, 0x20A7, 1⟩,
    ⟨0x9F, 0x192, 1⟩, ⟨0xA0, 0xE1, 1⟩, ⟨0xA1, 0xED, 1⟩, ⟨0xA2, 0xF3, 1⟩, ⟨0xA3, 0xFA, 1⟩,
    ⟨0xA4, 0xF1, 1⟩, ⟨0xA5, 0xD1, 1⟩, ⟨0xA6, 0xAA, 1⟩, ⟨0xA7, 0xBA, 1⟩, ⟨0xA8, 0xBF, 1⟩,
    ⟨0xA9, 0x2310, 1⟩, ⟨0xAA, 0xAC, 1⟩, ⟨0xAB, 0xBD, 1⟩, ⟨0xAC, 0xBC, 1⟩, ⟨0xAD, 0xA1, 1⟩,
    ⟨0xAE, 0xAB, 1⟩, ⟨0xAF, 0xBB, 1⟩, ⟨0xB0, 0x2591, 3⟩, ⟨0xB3, 0x2502, 1⟩, ⟨0xB4, 0x2524, 1⟩,
    ⟨0xB5, 0x2561, 2⟩, ⟨0xB7, 0x2556, 1⟩, ⟨0xB8, 0x2555, 1⟩, ⟨0xB9, 0x2563, 1⟩, ⟨0xBA, 0x2551, 1⟩,
    ⟨0xBB, 0x2557, 1⟩, ⟨0xBC, 0x255D, 1⟩, ⟨0xBD, 0x255C, 1⟩, ⟨0xBE, 0x255B, 1⟩, ⟨0xBF, 0x2510, 1⟩,
    ⟨0xC0, 0x2514, 1⟩, ⟨0xC1, 0x2534, 1⟩, ⟨0xC2, 0x252C, 1⟩, ⟨0xC3, 0x251C, 1⟩, ⟨0xC4, 0x2500, 1⟩,
    ⟨0xC5, 0x253C, 1⟩, ⟨0xC6, 0x255E, 2⟩, ⟨0xC8, 0x255A, 1⟩, ⟨0xC9, 0x2554, 1⟩, ⟨0xCA, 0x2569, 1⟩,
    ⟨0xCB, 0x2566, 1⟩, ⟨0xCC, 0x2560, 1⟩, ⟨0xCD, 0x2550, 1⟩, ⟨0xCE, 0x256C, 1⟩, ⟨0xCF, 0x2567, 2⟩,
    ⟨0xD1, 0x2564, 2⟩, ⟨0xD3, 0x2559, 1⟩, ⟨0xD4, 0x2558, 1⟩, ⟨0xD5, 0x2552, 2⟩, ⟨0xD7, 0x256B, 1⟩,
    ⟨0xD8, 0x256A, 1⟩, ⟨0xD9, 0x2518, 1⟩, ⟨0xDA, 0x250C, 1⟩, ⟨0xDB, 0x2588, 1⟩, ⟨0xDC, 0x2584, 1⟩,
    ⟨0xDD, 0x258C, 1⟩, ⟨0xDE, 0x2590, 1⟩, ⟨0xDF, 0x2580, 1⟩, ⟨0xE0, 0x3B1, 1⟩, ⟨0xE1, 0xDF, 1⟩,
    ⟨0xE2, 0x393, 1⟩, ⟨0xE3, 0x3C0, 1⟩, ⟨0xE4, 0x3A3, 1⟩, ⟨0xE5, 0x3C3, 1⟩, ⟨0xE6, 0xB5, 1⟩,
    ⟨0xE7, 0x3C4, 1⟩, ⟨0xE8, 0x3A6, 1⟩, ⟨0xE9, 0x398, 1⟩, ⟨0xEA, 0x3A9, 1⟩, ⟨0xEB, 0x3B4, 1⟩,
    ⟨0xEC, 0x221E, 1⟩, ⟨0xED, 0x3C6, 1⟩, ⟨0xEE, 0x3B5, 1⟩, ⟨0xEF, 0x2229, 1⟩, ⟨0xF0, 0x2261, 1⟩,
    ⟨0xF1, 0xB1, 1⟩, ⟨0xF2, 0x2265, 1⟩, ⟨0xF3, 0x2264, 1⟩, ⟨0xF4, 0x2320, 2⟩, ⟨0xF6, 0xF7, 1⟩,
    ⟨0xF7, 0x2248, 1⟩, ⟨0xF8, 0xB0, 1⟩, ⟨0xF9, 0x2219, 1⟩, ⟨0xFA, 0xB7, 1⟩, ⟨0xFB, 0x221A, 1⟩,
    ⟨0xFC, 0x207F, 1⟩, ⟨0xFD, 0xB2, 1⟩, ⟨0xFE, 0x25A0, 1⟩, ⟨0xFF, 0xA0, 1⟩])

def cp863Set : Codec where
  names   := ["cp863"]
  aliases := ["863", "csibm863", "ibm863"]
  charset := .ok (.page [
    ⟨0x00, 0x0, 128⟩, ⟨0x80, 0xC7, 1⟩, ⟨0x81, 0xFC, 1⟩, ⟨0x82, 0xE9, 1⟩, ⟨0x83, 0xE2, 1⟩,
    ⟨0x84, 0xC2, 1⟩, ⟨0x85, 0xE0, 1⟩, ⟨0x86, 0xB6, 1⟩, ⟨0x87, 0xE7, 1⟩, ⟨0x88, 0xEA, 2⟩,
    ⟨0x8A, 0xE8, 1⟩, ⟨0x8B, 0xEF, 1⟩, ⟨0x8C, 0xEE, 1⟩, ⟨0x8D, 0x2017, 1⟩, ⟨0x8E, 0xC0, 1⟩,
    ⟨0x8F, 0xA7, 1⟩, ⟨0x90, 0xC9, 1⟩, ⟨0x91, 0xC8, 1⟩, ⟨0x92, 0xCA, 1⟩, ⟨0x93, 0xF4, 1⟩,
    ⟨0x94, 0xCB, 1⟩, ⟨0x95, 0xCF, 1⟩, ⟨0x96, 0xFB, 1⟩, ⟨0x97, 0xF9, 1⟩, ⟨0x98, 0xA4, 1⟩,
    ⟨0x99, 0xD4, 1⟩, ⟨0x9A, 0xDC, 1⟩, ⟨0x9B, 0xA2, 2⟩, ⟨0x9D, 0xD9, 1⟩, ⟨0x9E, 0xDB, 1⟩,
    ⟨0x9F, 0x192, 1⟩, ⟨0xA0, 0xA6, 1⟩, ⟨0xA1, 0xB4, 1⟩, ⟨0xA2, 0xF3, 1⟩, ⟨0xA3, 0xFA, 1⟩,
    ⟨0xA4, 0xA8, 1⟩, ⟨0xA5, 0xB8, 1⟩, ⟨0xA6, 0xB3, 1⟩, ⟨0xA7, 0xAF, 1⟩, ⟨0xA8, 0xCE, 1⟩,
    ⟨0xA9, 0x2310, 1⟩, ⟨0xAA, 0xAC, 1⟩, ⟨0xAB, 0xBD, 1⟩, ⟨0xAC, 0xBC, 1⟩, ⟨0xAD, 0xBE, 1⟩,
    ⟨0xAE, 0xAB, 1⟩, ⟨0xAF, 0xBB, 1⟩, ⟨0xB0, 0x2591, 3⟩, ⟨0xB3, 0x2502, 1⟩, ⟨0xB4, 0x2524, 1⟩,
    ⟨0xB5, 0x2561, 2⟩, ⟨0xB7, 0x2556, 1⟩, ⟨0xB8, 0x2555, 1⟩, ⟨0xB9, 0x2563, 1⟩, ⟨0xBA, 0x2551, 1⟩,
    ⟨0xBB, 0x2557, 1⟩, ⟨0xBC, 0x255D, 1⟩, ⟨0xBD, 0x255C, 1⟩, ⟨0xBE, 0x255B, 1⟩, ⟨0xBF, 0x2510, 1⟩,
    ⟨0xC0, 0x2514, 1⟩, ⟨0xC1, 0x2534, 1⟩, ⟨0xC2, 0x252C, 1⟩, ⟨0xC3, 0x251C, 1⟩, ⟨0xC4, 0x2500, 1⟩,
    ⟨0xC5, 0x253C, 1⟩, ⟨0xC6, 0x255E, 2⟩, ⟨0xC8, 0x255A, 1⟩, ⟨0xC9, 0x2554, 1⟩, ⟨0xCA, 0x2569, 1⟩,
    ⟨0xCB, 0x2566, 1⟩, ⟨0xCC, 0x2560, 1⟩, ⟨0xCD, 0x2550, 1⟩, ⟨0xCE, 0x256C, 1⟩, ⟨0xCF, 0x2567, 2⟩,
    ⟨0xD1, 0x2564, 2⟩, ⟨0xD3, 0x2559, 1⟩, ⟨0xD4, 0x2558, 1⟩, ⟨0xD5, 0x2552, 2⟩, ⟨0xD7, 0x256B, 1⟩,
    ⟨0xD8, 0x256A, 1⟩, ⟨0xD9, 0x2518, 1⟩, ⟨0xDA, 0x250C, 1⟩, ⟨0xDB, 0x2588, 1⟩, ⟨0xDC, 0x2584, 1⟩,
    ⟨0xDD, 0x258C, 1⟩, ⟨0xDE, 0x2590, 1⟩, ⟨0xDF, 0x2580, 1⟩, ⟨0xE0, 0x3B1, 1⟩, ⟨0xE1, 0xDF, 1⟩,
    ⟨0xE2, 0x393, 1⟩, ⟨0xE3, 0x3C0, 1⟩, ⟨0xE4, 0x3A3, 1⟩, ⟨0xE5, 0x3C3, 1⟩, ⟨0xE6, 0xB5, 1⟩,
    ⟨0xE7, 0x3C4, 1⟩, ⟨0xE8, 0x3A6, 1⟩, ⟨0xE9, 0x398, 1⟩, ⟨0xEA, 0x3A9, 1⟩, ⟨0xEB, 0x3B4, 1⟩,
    ⟨0xEC, 0x221E, 1⟩, ⟨0xED, 0x3C6, 1⟩, ⟨0xEE, 0x3B5, 1⟩, ⟨0xEF, 0x2229, 1⟩, ⟨0xF0, 0x2261, 1⟩,
    ⟨0xF1, 0xB1, 1⟩, ⟨0xF2, 0x2265, 1⟩, ⟨0xF3, 0x2264, 1⟩, ⟨0xF4, 0x2320, 2⟩, ⟨0xF6, 0xF7, 1⟩,
    ⟨0xF7, 0x2248, 1⟩, ⟨0xF8, 0xB0, 1⟩, ⟨0xF9, 0x2219, 1⟩, ⟨0xFA, 0xB7, 1⟩, ⟨0xFB, 0x221A, 1⟩,
    ⟨0xFC, 0x207F, 1⟩, ⟨0xFD, 0xB2, 1⟩, ⟨0xFE, 0x25A0, 1⟩, ⟨0xFF, 0xA0, 1⟩])

def cp865Set : Codec where
  names   := ["cp865"]
  aliases := ["865", "csibm865", "ibm865"]
  charset := .ok (.page [
    ⟨0x00, 0x0, 128⟩, ⟨0x80, 0xC7, 1⟩, ⟨0x81, 0xFC, 1⟩, ⟨0x82, 0xE9, 1⟩, ⟨0x83, 0xE2, 1⟩,
    ⟨0x84, 0xE4, 1⟩, ⟨0x85, 0xE0, 1⟩, ⟨0x86, 0xE5, 1⟩, ⟨0x87, 0xE7, 1⟩, ⟨0x88, 0xEA, 2⟩,
    ⟨0x8A, 0xE8, 1⟩, ⟨0x8B, 0xEF, 1⟩, ⟨0x8C, 0xEE, 1⟩, ⟨0x8D, 0xEC, 1⟩, ⟨0x8E, 0xC4, 2⟩,
    ⟨0x90, 0xC9, 1⟩, ⟨0x91, 0xE6, 1⟩, ⟨0x92, 0xC6, 1⟩, ⟨0x93, 0xF4, 1⟩, ⟨0x94, 0xF6, 1⟩,
    ⟨0x95, 0xF2, 1⟩, ⟨0x96, 0xFB, 1⟩, ⟨0x97, 0xF9, 1⟩, ⟨0x98, 0xFF, 1⟩, ⟨0x99, 0xD6, 1⟩,
    ⟨0x9A, 0xDC, 1⟩, ⟨0x9B, 0xF8, 1⟩, ⟨0x9C, 0xA3, 1⟩, ⟨0x9D, 0xD8, 1⟩, ⟨0x9E, 0x20A7, 1⟩,
    ⟨0x9F, 0x192, 1⟩, ⟨0xA0, 0xE1, 1⟩, ⟨0xA1, 0xED, 1⟩, ⟨0xA2, 0xF3, 1⟩, ⟨0xA3, 0xFA, 1⟩,
    ⟨0xA4, 0xF1, 1⟩, ⟨0xA5, 0xD1, 1⟩, ⟨0xA6, 0xAA, 1⟩, ⟨0xA7, 0xBA, 1⟩, ⟨0xA8, 0xBF, 1⟩,
    ⟨0xA9, 0x2310, 1⟩, ⟨0xAA, 0xAC, 1⟩, ⟨0xAB, 0xBD, 1⟩, ⟨0xAC, 0xBC, 1⟩, ⟨0xAD, 0xA1, 1⟩,
    ⟨0xAE, 0xAB, 1⟩, ⟨0xAF, 0xA4, 1⟩, ⟨0xB0, 0x2591, 3⟩, ⟨0xB3, 0x2502, 1⟩, ⟨0xB4, 0x2524, 1⟩,
    ⟨0xB5, 0x2561, 2⟩, ⟨0xB7, 0x2556, 1⟩, ⟨0xB8, 0x2555, 1⟩, ⟨0xB9, 0x2563, 1⟩, ⟨0xBA, 0x2551, 1⟩,
    ⟨0xBB, 0x2557, 1⟩, ⟨0xBC, 0x255D, 1⟩, ⟨0xBD, 0x255C, 1⟩, ⟨0xBE, 0x255B, 1⟩, ⟨0xBF, 0x2510, 1⟩,
    ⟨0xC0, 0x2514, 1⟩, ⟨0xC1, 0x2534, 1⟩, ⟨0xC2, 0x252C, 1⟩, ⟨0xC3, 0x251C, 1⟩, ⟨0xC4, 0x2500, 1⟩,
    ⟨0xC5, 0x253C, 1⟩, ⟨0xC6, 0x255E, 2⟩, ⟨0xC8, 0x255A, 1⟩, ⟨0xC9, 0x2554, 1⟩, ⟨0xCA, 0x2569, 1⟩,
    ⟨0xCB, 0x2566, 1⟩, ⟨0xCC, 0x2560, 1⟩, ⟨0xCD, 0x2550, 1⟩, ⟨0xCE, 0x256C, 1⟩, ⟨0xCF, 0x2567, 2⟩,
    ⟨0xD1, 0x2564, 2⟩, ⟨0xD3, 0x2559, 1⟩, ⟨0xD4, 0x2558, 1⟩, ⟨0xD5, 0x2552, 2⟩, ⟨0xD7, 0x256B, 1⟩,
    ⟨0xD8, 0x256A, 1⟩, ⟨0xD9, 0x2518, 1⟩, ⟨0xDA, 0x250C, 1⟩, ⟨0xDB, 0x2588, 1⟩, ⟨0xDC, 0x2584, 1⟩,
    ⟨0xDD, 0x258C, 1⟩, ⟨0xDE, 0x2590, 1⟩, ⟨0xDF, 0x2580, 1⟩, ⟨0xE0, 0x3B1, 1⟩, ⟨0xE1, 0xDF, 1⟩,
    ⟨0xE2, 0x393, 1⟩, ⟨0xE3, 0x3C0, 1⟩, ⟨0xE4, 0x3A3, 1⟩, ⟨0xE5, 0x3C3, 1⟩, ⟨0xE6, 0xB5, 1⟩,
    ⟨0xE7, 0x3C4, 1⟩, ⟨0xE8, 0x3A6, 1⟩, ⟨0xE9, 0x398, 1⟩, ⟨0xEA, 0x3A9, 1⟩, ⟨0xEB, 0x3B4, 1⟩,
    ⟨0xEC, 0x221E, 1⟩, ⟨0xED, 0x3C6, 1⟩, ⟨0xEE, 0x3B5, 1⟩, ⟨0xEF, 0x2229, 1⟩, ⟨0xF0, 0x2261, 1⟩,
    ⟨0xF1, 0xB1, 1⟩, ⟨0xF2, 0x2265, 1⟩, ⟨0xF3, 0x2264, 1⟩, ⟨0xF4, 0x2320, 2⟩, ⟨0xF6, 0xF7, 1⟩,
    ⟨0xF7, 0x2248, 1⟩, ⟨0xF8, 0xB0, 1⟩, ⟨0xF9, 0x2219, 1⟩, ⟨0xFA, 0xB7, 1⟩, ⟨0xFB, 0x221A, 1⟩,
    ⟨0xFC, 0x207F, 1⟩, ⟨0xFD, 0xB2, 1⟩, ⟨0xFE, 0x25A0, 1⟩, ⟨0xFF, 0xA0, 1⟩])

def cp866Set : Codec where
  names   := ["cp866"]
  aliases := ["866", "csibm866", "ibm866"]
  charset := .ok (.page [
    ⟨0x00, 0x0, 128⟩, ⟨0x80, 0x410, 48⟩, ⟨0xB0, 0x2591, 3⟩, ⟨0xB3, 0x2502, 1⟩, ⟨0xB4, 0x2524, 1⟩,
    ⟨0xB5, 0x2561, 2⟩, ⟨0xB7, 0x2556, 1⟩, ⟨0xB8, 0x2555, 1⟩, ⟨0xB9, 0x2563, 1⟩, ⟨0xBA, 0x2551, 1⟩,
    ⟨0xBB, 0x2557, 1⟩, ⟨0xBC, 0x255D, 1⟩, ⟨0xBD, 0x255C, 1⟩, ⟨0xBE, 0x255B, 1⟩, ⟨0xBF, 0x2510, 1⟩,
    ⟨0xC0, 0x2514, 1⟩, ⟨0xC1, 0x2534, 1⟩, ⟨0xC2, 0x252C, 1⟩, ⟨0xC3, 0x251C, 1⟩, ⟨0xC4, 0x2500, 1⟩,
    ⟨0xC5, 0x253C, 1⟩, ⟨0xC6, 0x255E, 2⟩, ⟨0xC8, 0x255A, 1⟩, ⟨0xC9, 0x2554, 1⟩, ⟨0xCA, 0x2569, 1⟩,
    ⟨0xCB, 0x2566, 1⟩, ⟨0xCC, 0x2560, 1⟩, ⟨0xCD, 0x2550, 1⟩, ⟨0xCE, 0x256C, 1⟩, ⟨0xCF, 0x2567, 2⟩,
    ⟨0xD1, 0x2564, 2⟩, ⟨0xD3, 0x2559, 1⟩, ⟨0xD4, 0x2558, 1⟩, ⟨0xD5, 0x2552, 2⟩, ⟨0xD7, 0x256B, 1⟩,
    ⟨0xD8, 0x256A, 1⟩, ⟨0xD9, 0x2518, 1⟩, ⟨0xDA, 0x250C, 1⟩, ⟨0xDB, 0x2588, 1⟩, ⟨0xDC, 0x2584, 1⟩,
    ⟨0xDD, 0x258C, 1⟩, ⟨0xDE, 0x2590, 1⟩, ⟨0xDF, 0x2580, 1⟩, ⟨0xE0, 0x440, 16⟩, ⟨0xF0, 0x401, 1⟩,
    ⟨0xF1, 0x451, 1⟩, ⟨0xF2, 0x404, 1⟩, ⟨0xF3, 0x454, 1⟩, ⟨0xF4, 0x407, 1⟩, ⟨0xF5, 0x457, 1⟩,
    ⟨0xF6, 0x40E, 1⟩, ⟨0xF7, 0x45E, 1⟩, ⟨0xF8, 0xB0, 1⟩, ⟨0xF9, 0x2219, 1⟩, ⟨0xFA, 0xB7, 1⟩,
    ⟨0xFB, 0x221A, 1⟩, ⟨0xFC, 0x2116, 1⟩, ⟨0xFD, 0xA4, 1⟩, ⟨0xFE, 0x25A0, 1⟩, ⟨0xFF, 0xA0, 1⟩])

def cp869Set : Codec where
  names   := ["cp869"]
  aliases := ["869", "cp_gr", "csibm869", "ibm869"]
  charset := .ok (.page [
    ⟨0x00, 0x0, 128⟩, ⟨0x86, 0x386, 1⟩, ⟨0x88, 0xB7, 1⟩, ⟨0x89, 0xAC, 1⟩, ⟨0x8A, 0xA6, 1⟩,
    ⟨0x8B, 0x2018, 2⟩, ⟨0x8D, 0x388, 1⟩, ⟨0x8E, 0x2015, 1⟩, ⟨0x8F, 0x389, 2⟩, ⟨0x91, 0x3AA, 1⟩,
    ⟨0x92, 0x38C, 1⟩, ⟨0x95, 0x38E, 1⟩, ⟨0x96, 0x3AB, 1⟩, ⟨0x97, 0xA9, 1⟩, ⟨0x98, 0x38F, 1⟩,
    ⟨0x99, 0xB2, 2⟩, ⟨0x9B, 0x3AC, 1⟩, ⟨0x9C, 0xA3, 1⟩, ⟨0x9D, 0x3AD, 3⟩, ⟨0xA0, 0x3CA, 1⟩,
    ⟨0xA1, 0x390, 1⟩, ⟨0xA2, 0x3CC, 2⟩, ⟨0xA4, 0x391, 7⟩, ⟨0xAB, 0xBD, 1⟩, ⟨0xAC, 0x398, 2⟩,
    ⟨0xAE, 0xAB, 1⟩, ⟨0xAF, 0xBB, 1⟩, ⟨0xB0, 0x2591, 3⟩, ⟨0xB3, 0x2502, 1⟩, ⟨0xB4, 0x2524, 1⟩,
    ⟨0xB5, 0x39A, 4⟩, ⟨0xB9, 0x2563, 1⟩, ⟨0xBA, 0x2551, 1⟩, ⟨0xBB, 0x2557, 1⟩, ⟨0xBC, 0x255D, 1⟩,
    ⟨0xBD, 0x39E, 2⟩, ⟨0xBF, 0x2510, 1⟩, ⟨0xC0, 0x2514, 1⟩, ⟨0xC1, 0x2534, 1⟩, ⟨0xC2, 0x252C, 1⟩,
    ⟨0xC3, 0x251C, 1⟩, ⟨0xC4, 0x2500, 1⟩, ⟨0xC5, 0x253C, 1⟩, ⟨0xC6, 0x3A0, 2⟩, ⟨0xC8, 0x255A, 1⟩,
    ⟨0xC9, 0x2554, 1⟩, ⟨0xCA, 0x2569, 1⟩, ⟨0xCB, 0x2566, 1⟩, ⟨0xCC, 0x2560, 1⟩, ⟨0xCD, 0x2550, 1⟩,
    ⟨0xCE, 0x256C, 1⟩, ⟨0xCF, 0x3A3, 7⟩, ⟨0xD6, 0x3B1, 3⟩, ⟨0xD9, 0x2518, 1⟩, ⟨0xDA, 0x250C, 1⟩,
    ⟨0xDB, 0x2588, 1⟩, ⟨0xDC, 0x2584, 1⟩, ⟨0xDD, 0x3B4, 2⟩, ⟨0xDF, 0x2580, 1⟩, ⟨0xE0, 0x3B6, 12⟩,
    ⟨0xEC, 0x3C3, 1⟩, ⟨0xED, 0x3C2, 1⟩, ⟨0xEE, 0x3C4, 1⟩, ⟨0xEF, 0x384, 1⟩, ⟨0xF0, 0xAD, 1⟩,
    ⟨0xF1, 0xB1, 1⟩, ⟨0xF2, 0x3C5, 3⟩, ⟨0xF5, 0xA7, 1⟩, ⟨0xF6, 0x3C8, 1⟩, ⟨0xF7, 0x385, 1⟩,
    ⟨0xF8, 0xB0, 1⟩, ⟨0xF9, 0xA8, 1⟩, ⟨0xFA, 0x3C9, 1⟩, ⟨0xFB, 0x3CB, 1⟩, ⟨0xFC, 0x3B0, 1⟩,
    ⟨0xFD, 0x3CE, 1⟩, ⟨0xFE, 0x25A0, 1⟩, ⟨0xFF, 0xA0, 1⟩])

def cp874Set : Codec where
  names   := ["cp874"]
  charset := .ok (.page [
    ⟨0x00, 0x0, 128⟩, ⟨0x80, 0x20AC, 1⟩, ⟨0x85, 0x2026, 1⟩, ⟨0x91, 0x2018, 2⟩, ⟨0x93, 0x201C, 2⟩,
    ⟨0x95, 0x2022, 1⟩, ⟨0x96, 0x2013, 2⟩, ⟨0xA0, 0xA0, 1⟩, ⟨0xA1, 0xE01, 58⟩, ⟨0xDF, 0xE3F, 29⟩])

def hpRoman8Set : Codec where
  names   := ["hp_roman8"]
  aliases := ["cp1051", "csHPRoman8", "ibm1051", "r8", "roman8"]
  charset := .ok (.page [
    ⟨0x00, 0x0, 161⟩, ⟨0xA1, 0xC0, 1⟩, ⟨0xA2, 0xC2, 1⟩, ⟨0xA3, 0xC8, 1⟩, ⟨0xA4, 0xCA, 2⟩,
    ⟨0xA6, 0xCE, 2⟩, ⟨0xA8, 0xB4, 1⟩, ⟨0xA9, 0x2CB, 1⟩, ⟨0xAA, 0x2C6, 1⟩, ⟨0xAB, 0xA8, 1⟩,
    ⟨0xAC, 0x2DC, 1⟩, ⟨0xAD, 0xD9, 1⟩, ⟨0xAE, 0xDB, 1⟩, ⟨0xAF, 0x20A4, 1⟩, ⟨0xB0, 0xAF, 1⟩,
    ⟨0xB1, 0xDD, 1⟩, ⟨0xB2, 0xFD, 1⟩, ⟨0xB3, 0xB0, 1⟩, ⟨0xB4, 0xC7, 1⟩, ⟨0xB5, 0xE7, 1⟩,
    ⟨0xB6, 0xD1, 1⟩, ⟨0xB7, 0xF1, 1⟩, ⟨0xB8, 0xA1, 1⟩, ⟨0xB9, 0xBF, 1⟩, ⟨0xBA, 0xA4, 1⟩,
    ⟨0xBB, 0xA3, 1⟩, ⟨0xBC, 0xA5, 1⟩, ⟨0xBD, 0xA7, 1⟩, ⟨0xBE, 0x192, 1⟩, ⟨0xBF, 0xA2, 1⟩,
    ⟨0xC0, 0xE2, 1⟩, ⟨0xC1, 0xEA, 1⟩, ⟨0xC2, 0xF4, 1⟩, ⟨0xC3, 0xFB, 1⟩, ⟨0xC4, 0xE1, 1⟩,
    ⟨0xC5, 0xE9, 1⟩, ⟨0xC6, 0xF3, 1⟩, ⟨0xC7, 0xFA, 1⟩, ⟨0xC8, 0xE0, 1⟩, ⟨0xC9, 0xE8, 1⟩,
    ⟨0xCA, 0xF2, 1⟩, ⟨0xCB, 0xF9, 1⟩, ⟨0xCC, 0xE4, 1⟩, ⟨0xCD, 0xEB, 1⟩, ⟨0xCE, 0xF6, 1⟩,
    ⟨0xCF, 0xFC, 1⟩, ⟨0xD0, 0xC5, 1⟩, ⟨0xD1, 0xEE, 1⟩, ⟨0xD2, 0xD8, 1⟩, ⟨0xD3, 0xC6, 1⟩,
    ⟨0xD4, 0xE5, 1⟩, ⟨0xD5, 0xED, 1⟩, ⟨0xD6, 0xF8, 1⟩, ⟨0xD7, 0xE6, 1⟩, ⟨0xD8, 0xC4, 1⟩,
    ⟨0xD9, 0xEC, 1⟩, ⟨0xDA, 0xD6, 1⟩, ⟨0xDB, 0xDC, 1⟩, ⟨0xDC, 0xC9, 1⟩, ⟨0xDD, 0xEF, 1⟩,
    ⟨0xDE, 0xDF, 1⟩, ⟨0xDF, 0xD4, 1⟩, ⟨0xE0, 0xC1, 1⟩, ⟨0xE1, 0xC3, 1⟩, ⟨0xE2, 0xE3, 1⟩,
    ⟨0xE3, 0xD0, 1⟩, ⟨0xE4, 0xF0, 1⟩, ⟨0xE5, 0xCD, 1⟩, ⟨0xE6, 0xCC, 1⟩, ⟨0xE7, 0xD3, 1⟩,
    ⟨0xE8, 0xD2, 1⟩, ⟨0xE9, 0xD5, 1⟩, ⟨0xEA, 0xF5, 1⟩, ⟨0xEB, 0x160, 2⟩, ⟨0xED, 0xDA, 1⟩,
    ⟨0xEE, 0x178, 1⟩, ⟨0xEF, 0xFF, 1⟩, ⟨0xF0, 0xDE, 1⟩, ⟨0xF1, 0xFE, 1⟩, ⟨0xF2, 0xB7, 1⟩,
    ⟨0xF3, 0xB5, 2⟩, ⟨0xF5, 0xBE, 1⟩, ⟨0xF6, 0x2014, 1⟩, ⟨0xF7, 0xBC, 2⟩, ⟨0xF9, 0xAA, 1⟩,
    ⟨0xFA, 0xBA, 1⟩, ⟨0xFB, 0xAB, 1⟩, ⟨0xFC, 0x25A0, 1⟩, ⟨0xFD, 0xBB, 1⟩, ⟨0xFE, 0xB1, 1⟩])

def hzSet : Codec where
  names   := ["hz"]
  aliases := ["hz_gb", "hz_gb_2312", "hzgb"]
  charset := .ok (.page [⟨0x00, 0x0, 126⟩, ⟨0x7F, 0x7F, 1⟩])

def iso885910Set : Codec where
  names   := ["iso8859_10"]
  aliases := ["csisolatin6", "iso_8859_10", "iso_8859_10_1992", "iso_ir_157", "l6", "latin6"]
  charset := .ok (.page [
    ⟨0x00, 0x0, 161⟩, ⟨0xA1, 0x104, 1⟩, ⟨0xA2, 0x112, 1⟩, ⟨0xA3, 0x122, 1⟩, ⟨0xA4, 0x12A, 1⟩,
    ⟨0xA5, 0x128, 1⟩, ⟨0xA6, 0x136, 1⟩, ⟨0xA7, 0xA7, 1⟩, ⟨0xA8, 0x13B, 1⟩, ⟨0xA9, 0x110, 1⟩,
    ⟨0xAA, 0x160, 1⟩, ⟨0xAB, 0x166, 1⟩, ⟨0xAC, 0x17D, 1⟩, ⟨0xAD, 0xAD, 1⟩, ⟨0xAE, 0x16A, 1⟩,
    ⟨0xAF, 0x14A, 1⟩, ⟨0xB0, 0xB0, 1⟩, ⟨0xB1, 0x105, 1⟩, ⟨0xB2, 0x113, 1⟩, ⟨0xB3, 0x123, 1⟩,
    ⟨0xB4, 0x12B, 1⟩, ⟨0xB5, 0x129, 1⟩, ⟨0xB6, 0x137, 1⟩, ⟨0xB7, 0xB7, 1⟩, ⟨0xB8, 0x13C, 1⟩,
    ⟨0xB9, 0x111, 1⟩, ⟨0xBA, 0x161, 1⟩, ⟨0xBB, 0x167, 1⟩, ⟨0xBC, 0x17E, 1⟩, ⟨0xBD, 0x2015, 1⟩,
    ⟨0xBE, 0x16B, 1⟩, ⟨0xBF, 0x14B, 1⟩, ⟨0xC0, 0x100, 1⟩, ⟨0xC1, 0xC1, 6⟩, ⟨0xC7, 0x12E, 1⟩,
    ⟨0xC8, 0x10C, 1⟩, ⟨0xC9, 0xC9, 1⟩, ⟨0xCA, 0x118, 1⟩, ⟨0xCB, 0xCB, 1⟩, ⟨0xCC, 0x116, 1⟩,
    ⟨0xCD, 0xCD, 4⟩, ⟨0xD1, 0x145, 1⟩, ⟨0xD2, 0x14C, 1⟩, ⟨0xD3, 0xD3, 4⟩, ⟨0xD7, 0x168, 1⟩,
    ⟨0xD8, 0xD8, 1⟩, ⟨0xD9, 0x172, 1⟩, ⟨0xDA, 0xDA, 6⟩, ⟨0xE0, 0x101, 1⟩, ⟨0xE1, 0xE1, 6⟩,
    ⟨0xE7, 0x12F, 1⟩, ⟨0xE8, 0x10D, 1⟩, ⟨0xE9, 0xE9, 1⟩, ⟨0xEA, 0x119, 1⟩, ⟨0xEB, 0xEB, 1⟩,
    ⟨0xEC, 0x117, 1⟩, ⟨0xED, 0xED, 4⟩, ⟨0xF1, 0x146, 1⟩, ⟨0xF2, 0x14D, 1⟩, ⟨0xF3, 0xF3, 4⟩,
    ⟨0xF7, 0x169, 1⟩, ⟨0xF8, 0xF8, 1⟩, ⟨0xF9, 0x173, 1⟩, ⟨0xFA, 0xFA, 5⟩, ⟨0xFF, 0x138, 1⟩])

def iso885911Set : Codec where
  names   := ["iso8859_11"]
  aliases := ["iso_8859_11", "iso_8859_11_2001", "thai"]
  charset := .ok (.page [⟨0x00, 0x0, 161⟩, ⟨0xA1, 0xE01, 58⟩, ⟨0xDF, 0xE3F, 29⟩])

def iso885913Set : Codec where
  names   := ["iso8859_13"]
  aliases := ["iso_8859_13", "l7", "latin7"]
  charset := .ok (.page [
    ⟨0x00, 0x0, 161⟩, ⟨0xA1, 0x201D, 1⟩, ⟨0xA2, 0xA2, 3⟩, ⟨0xA5, 0x201E, 1⟩, ⟨0xA6, 0xA6, 2⟩,
    ⟨0xA8, 0xD8, 1⟩, ⟨0xA9, 0xA9, 1⟩, ⟨0xAA, 0x156, 1⟩, ⟨0xAB, 0xAB, 4⟩, ⟨0xAF, 0xC6, 1⟩,
    ⟨0xB0, 0xB0, 4⟩, ⟨0xB4, 0x201C, 1⟩, ⟨0xB5, 0xB5, 3⟩, ⟨0xB8, 0xF8, 1⟩, ⟨0xB9, 0xB9, 1⟩,
    ⟨0xBA, 0x157, 1⟩, ⟨0xBB, 0xBB, 4⟩, ⟨0xBF, 0xE6, 1⟩, ⟨0xC0, 0x104, 1⟩, ⟨0xC1, 0x12E, 1⟩,
    ⟨0xC2, 0x100, 1⟩, ⟨0xC3, 0x106, 1⟩, ⟨0xC4, 0xC4, 2⟩, ⟨0xC6, 0x118, 1⟩, ⟨0xC7, 0x112, 1⟩,
    ⟨0xC8, 0x10C, 1⟩, ⟨0xC9, 0xC9, 1⟩, ⟨0xCA, 0x179, 1⟩, ⟨0xCB, 0x116, 1⟩, ⟨0xCC, 0x122, 1⟩,
    ⟨0xCD, 0x136, 1⟩, ⟨0xCE, 0x12A, 1⟩, ⟨0xCF, 0x13B, 1⟩, ⟨0xD0, 0x160, 1⟩, ⟨0xD1, 0x143, 1⟩,
    ⟨0xD2, 0x145, 1⟩, ⟨0xD3, 0xD3, 1⟩, ⟨0xD4, 0x14C, 1⟩, ⟨0xD5, 0xD5, 3⟩, ⟨0xD8, 0x172, 1⟩,
    ⟨0xD9, 0x141, 1⟩, ⟨0xDA, 0x15A, 1⟩, ⟨0xDB, 0x16A, 1⟩, ⟨0xDC, 0xDC, 1⟩, ⟨0xDD, 0x17B, 1⟩,
    ⟨0xDE, 0x17D, 1⟩, ⟨0xDF, 0xDF, 1⟩, ⟨0xE0, 0x105, 1⟩, ⟨0xE1, 0x12F, 1⟩, ⟨0xE2, 0x101, 1⟩,
    ⟨0xE3, 0x107, 1⟩, ⟨0xE4, 0xE4, 2⟩, ⟨0xE6, 0x119, 1⟩, ⟨0xE7, 0x113, 1⟩, ⟨0xE8, 0x10D, 1⟩,
    ⟨0xE9, 0xE9, 1⟩, ⟨0xEA, 0x17A, 1⟩, ⟨0xEB, 0x117, 1⟩, ⟨0xEC, 0x123, 1⟩, ⟨0xED, 0x137, 1⟩,
    ⟨0xEE, 0x12B, 1⟩, ⟨0xEF, 0x13C, 1⟩, ⟨0xF0, 0x161, 1⟩, ⟨0xF1, 0x144, 1⟩, ⟨0xF2, 0x146, 1⟩,
    ⟨0xF3, 0xF3, 1⟩, ⟨0xF4, 0x14D, 1⟩, ⟨0xF5, 0xF5, 3⟩, ⟨0xF8, 0x173, 1⟩, ⟨0xF9, 0x142, 1⟩,
    ⟨0xFA, 0x15B, 1⟩, ⟨0xFB, 0x16B, 1⟩, ⟨0xFC, 0xFC, 1⟩, ⟨0xFD, 0x17C, 1⟩, ⟨0xFE, 0x17E, 1⟩,
    ⟨0xFF, 0x2019, 1⟩])

def iso885914Set : Codec where
  names   := ["iso8859_14"]
  aliases := ["iso_8859_14", "iso_8859_14_1998", "iso_celtic", "iso_ir_199", "l8", "latin8"]
  charset := .ok (.page [
    ⟨0x00, 0x0, 161⟩, ⟨0xA1, 0x1E02, 2⟩, ⟨0xA3, 0xA3, 1⟩, ⟨0xA4, 0x10A, 2⟩, ⟨0xA6, 0x1E0A, 1⟩,
    ⟨0xA7, 0xA7, 1⟩, ⟨0xA8, 0x1E80, 1⟩, ⟨0xA9, 0xA9, 1⟩, ⟨0xAA, 0x1E82, 1⟩, ⟨0xAB, 0x1E0B, 1⟩,
    ⟨0xAC, 0x1EF2, 1⟩, ⟨0xAD, 0xAD, 2⟩, ⟨0xAF, 0x178, 1⟩, ⟨0xB0, 0x1E1E, 2⟩, ⟨0xB2, 0x120, 2⟩,
    ⟨0xB4, 0x1E40, 2⟩, ⟨0xB6, 0xB6, 1⟩, ⟨0xB7, 0x1E56, 1⟩, ⟨0xB8, 0x1E81, 1⟩, ⟨0xB9, 0x1E57, 1⟩,
    ⟨0xBA, 0x1E83, 1⟩, ⟨0xBB, 0x1E60, 1⟩, ⟨0xBC, 0x1EF3, 1⟩, ⟨0xBD, 0x1E84, 2⟩, ⟨0xBF, 0x1E61, 1⟩,
    ⟨0xC0, 0xC0, 16⟩, ⟨0xD0, 0x174, 1⟩, ⟨0xD1, 0xD1, 6⟩, ⟨0xD7, 0x1E6A, 1⟩, ⟨0xD8, 0xD8, 6⟩,
    ⟨0xDE, 0x176, 1⟩, ⟨0xDF, 0xDF, 17⟩, ⟨0xF0, 0x175, 1⟩, ⟨0xF1, 0xF1, 6⟩, ⟨0xF7, 0x1E6B, 1⟩,
    ⟨0xF8, 0xF8, 6⟩, ⟨0xFE, 0x177, 1⟩, ⟨0xFF, 0xFF, 1⟩])

def iso885915Set : Codec where
  names   := ["iso8859_15"]
  aliases := ["iso_8859_15", "l9", "latin9"]
  charset := .ok (.page [
    ⟨0x00, 0x0, 164⟩, ⟨0xA4, 0x20AC, 1⟩, ⟨0xA5, 0xA5, 1⟩, ⟨0xA6, 0x160, 1⟩, ⟨0xA7, 0xA7, 1⟩,
    ⟨0xA8, 0x161, 1⟩, ⟨0xA9, 0xA9, 11⟩, ⟨0xB4, 0x17D, 1⟩, ⟨0xB5, 0xB5, 3⟩, ⟨0xB8, 0x17E, 1⟩,
    ⟨0xB9, 0xB9, 3⟩, ⟨0xBC, 0x152, 2⟩, ⟨0xBE, 0x178, 1⟩, ⟨0xBF, 0xBF, 65⟩])

def iso885916Set : Codec where
  names   := ["iso8859_16"]
  aliases := ["iso_8859_16", "iso_8859_16_2001", "iso_ir_226", "l10", "latin10"]
  charset := .ok (.page [
    ⟨0x00, 0x0, 161⟩, ⟨0xA1, 0x104, 2⟩, ⟨0xA3, 0x141, 1⟩, ⟨0xA4, 0x20AC, 1⟩, ⟨0xA5, 0x201E, 1⟩,
    ⟨0xA6, 0x160, 1⟩, ⟨0xA7, 0xA7, 1⟩, ⟨0xA8, 0x161, 1⟩, ⟨0xA9, 0xA9, 1⟩, ⟨0xAA, 0x218, 1⟩,
    ⟨0xAB, 0xAB, 1⟩, ⟨0xAC, 0x179, 1⟩, ⟨0xAD, 0xAD, 1⟩, ⟨0xAE, 0x17A, 2⟩, ⟨0xB0, 0xB0, 2⟩,
    ⟨0xB2, 0x10C, 1⟩, ⟨0xB3, 0x142, 1⟩, ⟨0xB4, 0x17D, 1⟩, ⟨0xB5, 0x201D, 1⟩, ⟨0xB6, 0xB6, 2⟩,
    ⟨0xB8, 0x17E, 1⟩, ⟨0xB9, 0x10D, 1⟩, ⟨0xBA, 0x219, 1⟩, ⟨0xBB, 0xBB, 1⟩, ⟨0xBC, 0x152, 2⟩,
    ⟨0xBE, 0x178, 1⟩, ⟨0xBF, 0x17C, 1⟩, ⟨0xC0, 0xC0, 3⟩, ⟨0xC3, 0x102, 1⟩, ⟨0xC4, 0xC4, 1⟩,
    ⟨0xC5, 0x106, 1⟩, ⟨0xC6, 0xC6, 10⟩, ⟨0xD0, 0x110, 1⟩, ⟨0xD1, 0x143, 1⟩, ⟨0xD2, 0xD2, 3⟩,
    ⟨0xD5, 0x150, 1⟩, ⟨0xD6, 0xD6, 1⟩, ⟨0xD7, 0x15A, 1⟩, ⟨0xD8, 0x170, 1⟩, ⟨0xD9, 0xD9, 4⟩,
    ⟨0xDD, 0x118, 1⟩, ⟨0xDE, 0x21A, 1⟩, ⟨0xDF, 0xDF, 4⟩, ⟨0xE3, 0x103, 1⟩, ⟨0xE4, 0xE4, 1⟩,
    ⟨0xE5, 0x107, 1⟩, ⟨0xE6, 0xE6, 10⟩, ⟨0xF0, 0x111, 1⟩, ⟨0xF1, 0x144, 1⟩, ⟨0xF2, 0xF2, 3⟩,
    ⟨0xF5, 0x151, 1⟩, ⟨0xF6, 0xF6, 1⟩, ⟨0xF7, 0x15B, 1⟩, ⟨0xF8, 0x171, 1⟩, ⟨0xF9, 0xF9, 4⟩,
    ⟨0xFD, 0x119, 1⟩, ⟨0xFE, 0x21B, 1⟩, ⟨0xFF, 0xFF, 1⟩])

def iso88592Set : Codec where
  names   := ["iso8859_2"]
  aliases := ["csisolatin2", "iso_8859_2", "iso_8859_2_1987", "iso_ir_101", "l2", "latin2"]
  charset := .ok (.page [
    ⟨0x00, 0x0, 161⟩, ⟨0xA1, 0x104, 1⟩, ⟨0xA2, 0x2D8, 1⟩, ⟨0xA3, 0x141, 1⟩, ⟨0xA4, 0xA4, 1⟩,
    ⟨0xA5, 0x13D, 1⟩, ⟨0xA6, 0x15A, 1⟩, ⟨0xA7, 0xA7, 2⟩, ⟨0xA9, 0x160, 1⟩, ⟨0xAA, 0x15E, 1⟩,
    ⟨0xAB, 0x164, 1⟩, ⟨0xAC, 0x179, 1⟩, ⟨0xAD, 0xAD, 1⟩, ⟨0xAE, 0x17D, 1⟩, ⟨0xAF, 0x17B, 1⟩,
    ⟨0xB0, 0xB0, 1⟩, ⟨0xB1, 0x105, 1⟩, ⟨0xB2, 0x2DB, 1⟩, ⟨0xB3, 0x142, 1⟩, ⟨0xB4, 0xB4, 1⟩,
    ⟨0xB5, 0x13E, 1⟩, ⟨0xB6, 0x15B, 1⟩, ⟨0xB7, 0x2C7, 1⟩, ⟨0xB8, 0xB8, 1⟩, ⟨0xB9, 0x161, 1⟩,
    ⟨0xBA, 0x15F, 1⟩, ⟨0xBB, 0x165, 1⟩, ⟨0xBC, 0x17A, 1⟩, ⟨0xBD, 0x2DD, 1⟩, ⟨0xBE, 0x17E, 1⟩,
    ⟨0xBF, 0x17C, 1⟩, ⟨0xC0, 0x154, 1⟩, ⟨0xC1, 0xC1, 2⟩, ⟨0xC3, 0x102, 1⟩, ⟨0xC4, 0xC4, 1⟩,
    ⟨0xC5, 0x139, 1⟩, ⟨0xC6, 0x106, 1⟩, ⟨0xC7, 0xC7, 1⟩, ⟨0xC8, 0x10C, 1⟩, ⟨0xC9, 0xC9, 1⟩,
    ⟨0xCA, 0x118, 1⟩, ⟨0xCB, 0xCB, 1⟩, ⟨0xCC, 0x11A, 1⟩, ⟨0xCD, 0xCD, 2⟩, ⟨0xCF, 0x10E, 1⟩,
    ⟨0xD0, 0x110, 1⟩, ⟨0xD1, 0x143, 1⟩, ⟨0xD2, 0x147, 1⟩, ⟨0xD3, 0xD3, 2⟩, ⟨0xD5, 0x150, 1⟩,
    ⟨0xD6, 0xD6, 2⟩, ⟨0xD8, 0x158, 1⟩, ⟨0xD9, 0x16E, 1⟩, ⟨0xDA, 0xDA, 1⟩, ⟨0xDB, 0x170, 1⟩,
    ⟨0xDC, 0xDC, 2⟩, ⟨0xDE, 0x162, 1⟩, ⟨0xDF, 0xDF, 1⟩, ⟨0xE0, 0x155, 1⟩, ⟨0xE1, 0xE1, 2⟩,
    ⟨0xE3, 0x103, 1⟩, ⟨0xE4, 0xE4, 1⟩, ⟨0xE5, 0x13A, 1⟩, ⟨0xE6, 0x107, 1⟩, ⟨0xE7, 0xE7, 1⟩,
    ⟨0xE8, 0x10D, 1⟩, ⟨0xE9, 0xE9, 1⟩, ⟨0xEA, 0x119, 1⟩, ⟨0xEB, 0xEB, 1⟩, ⟨0xEC, 0x11B, 1⟩,
    ⟨0xED, 0xED, 2⟩, ⟨0xEF, 0x10F, 1⟩, ⟨0xF0, 0x111, 1⟩, ⟨0xF1, 0x144, 1⟩, ⟨0xF2, 0x148, 1⟩,
    ⟨0xF3, 0xF3, 2⟩, ⟨0xF5, 0x151, 1⟩, ⟨0xF6, 0xF6, 2⟩, ⟨0xF8, 0x159, 1⟩, ⟨0xF9, 0x16F, 1⟩,
    ⟨0xFA, 0xFA, 1⟩, ⟨0xFB, 0x171, 1⟩, ⟨0xFC, 0xFC, 2⟩, ⟨0xFE, 0x163, 1⟩, ⟨0xFF, 0x2D9, 1⟩])

def iso88593Set : Codec where
  names   := ["iso8859_3"]
  aliases := ["csisolatin3", "iso_8859_3", "iso_8859_3_1988", "iso_ir_109", "l3", "latin3"]
  charset := .ok (.page [
    ⟨0x00, 0x0, 161⟩, ⟨0xA1, 0x126, 1⟩, ⟨0xA2, 0x2D8, 1⟩, ⟨0xA3, 0xA3, 2⟩, ⟨0xA6, 0x124, 1⟩,
    ⟨0xA7, 0xA7, 2⟩, ⟨0xA9, 0x130, 1⟩, ⟨0xAA, 0x15E, 1⟩, ⟨0xAB, 0x11E, 1⟩, ⟨0xAC, 0x134, 1⟩,
    ⟨0xAD, 0xAD, 1⟩, ⟨0xAF, 0x17B, 1⟩, ⟨0xB0, 0xB0, 1⟩, ⟨0xB1, 0x127, 1⟩, ⟨0xB2, 0xB2, 4⟩,
    ⟨0xB6, 0x125, 1⟩, ⟨0xB7, 0xB7, 2⟩, ⟨0xB9, 0x131, 1⟩, ⟨0xBA, 0x15F, 1⟩, ⟨0xBB, 0x11F, 1⟩,
    ⟨0xBC, 0x135, 1⟩, ⟨0xBD, 0xBD, 1⟩, ⟨0xBF, 0x17C, 1⟩, ⟨0xC0, 0xC0, 3⟩, ⟨0xC4, 0xC4, 1⟩,
    ⟨0xC5, 0x10A, 1⟩, ⟨0xC6, 0x108, 1⟩, ⟨0xC7, 0xC7, 9⟩, ⟨0xD1, 0xD1, 4⟩, ⟨0xD5, 0x120, 1⟩,
    ⟨0xD6, 0xD6, 2⟩, ⟨0xD8, 0x11C, 1⟩, ⟨0xD9, 0xD9, 4⟩, ⟨0xDD, 0x16C, 1⟩, ⟨0xDE, 0x15C, 1⟩,
    ⟨0xDF, 0xDF, 4⟩, ⟨0xE4, 0xE4, 1⟩, ⟨0xE5, 0x10B, 1⟩, ⟨0xE6, 0x109, 1⟩, ⟨0xE7, 0xE7, 9⟩,
    ⟨0xF1, 0xF1, 4⟩, ⟨0xF5, 0x121, 1⟩, ⟨0xF6, 0xF6, 2⟩, ⟨0xF8, 0x11D, 1⟩, ⟨0xF9, 0xF9, 4⟩,
    ⟨0xFD, 0x16D, 1⟩, ⟨0xFE, 0x15D, 1⟩, ⟨0xFF, 0x2D9, 1⟩])

def iso88594Set : Codec where
  names   := ["iso8859_4"]
  aliases := ["csisolatin4", "iso_8859_4", "iso_8859_4_1988", "iso_ir_110", "l4", "latin4"]
  charset := .ok (.page [
    ⟨0x00, 0x0, 161⟩, ⟨0xA1, 0x104, 1⟩, ⟨0xA2, 0x138, 1⟩, ⟨0xA3, 0x156, 1⟩, ⟨0xA4, 0xA4, 1⟩,
    ⟨0xA5, 0x128, 1⟩, ⟨0xA6, 0x13B, 1⟩, ⟨0xA7, 0xA7, 2⟩, ⟨0xA9, 0x160, 1⟩, ⟨0xAA, 0x112, 1⟩,
    ⟨0xAB, 0x122, 1⟩, ⟨0xAC, 0x166, 1⟩, ⟨0xAD, 0xAD, 1⟩, ⟨0xAE, 0x17D, 1⟩, ⟨0xAF, 0xAF, 2⟩,
    ⟨0xB1, 0x105, 1⟩, ⟨0xB2, 0x2DB, 1⟩, ⟨0xB3, 0x157, 1⟩, ⟨0xB4, 0xB4, 1⟩, ⟨0xB5, 0x129, 1⟩,
    ⟨0xB6, 0x13C, 1⟩, ⟨0xB7, 0x2C7, 1⟩, ⟨0xB8, 0xB8, 1⟩, ⟨0xB9, 0x161, 1⟩, ⟨0xBA, 0x113, 1⟩,
    ⟨0xBB, 0x123, 1⟩, ⟨0xBC, 0x167, 1⟩, ⟨0xBD, 0x14A, 1⟩, ⟨0xBE, 0x17E, 1⟩, ⟨0xBF, 0x14B, 1⟩,
    ⟨0xC0, 0x100, 1⟩, ⟨0xC1, 0xC1, 6⟩, ⟨0xC7, 0x12E, 1⟩, ⟨0xC8, 0x10C, 1⟩, ⟨0xC9, 0xC9, 1⟩,
    ⟨0xCA, 0x118, 1⟩, ⟨0xCB, 0xCB, 1⟩, ⟨0xCC, 0x116, 1⟩, ⟨0xCD, 0xCD, 2⟩, ⟨0xCF, 0x12A, 1⟩,
    ⟨0xD0, 0x110, 1⟩, ⟨0xD1, 0x145, 1⟩, ⟨0xD2, 0x14C, 1⟩, ⟨0xD3, 0x136, 1⟩, ⟨0xD4, 0xD4, 5⟩,
    ⟨0xD9, 0x172, 1⟩, ⟨0xDA, 0xDA, 3⟩, ⟨0xDD, 0x168, 1⟩, ⟨0xDE, 0x16A, 1⟩, ⟨0xDF, 0xDF, 1⟩,
    ⟨0xE0, 0x101, 1⟩, ⟨0xE1, 0xE1, 6⟩, ⟨0xE7, 0x12F, 1⟩, ⟨0xE8, 0x10D, 1⟩, ⟨0xE9, 0xE9, 1⟩,
    ⟨0xEA, 0x119, 1⟩, ⟨0xEB, 0xEB, 1⟩, ⟨0xEC, 0x117, 1⟩, ⟨0xED, 0xED, 2⟩, ⟨0xEF, 0x12B, 1⟩,
    ⟨0xF0, 0x111, 1⟩, ⟨0xF1, 0x146, 1⟩, ⟨0xF2, 0x14D, 1⟩, ⟨0xF3, 0x137, 1⟩, ⟨0xF4, 0xF4, 5⟩,
    ⟨0xF9, 0x173, 1⟩, ⟨0xFA, 0xFA, 3⟩, ⟨0xFD, 0x169, 1⟩, ⟨0xFE, 0x16B, 1⟩, ⟨0xFF, 0x2D9, 1⟩])

def iso88595Set : Codec where
  names   := ["iso8859_5"]
  aliases := ["csisolatincyrillic", "cyrillic", "iso_8859_5", "iso_8859_5_1988", "iso_ir_144"]
  charset := .ok (.page [
    ⟨0x00, 0x0, 161⟩, ⟨0xA1, 0x401, 12⟩, ⟨0xAD, 0xAD, 1⟩, ⟨0xAE, 0x40E, 66⟩, ⟨0xF0, 0x2116, 1⟩,
    ⟨0xF1, 0x451, 12⟩, ⟨0xFD, 0xA7, 1⟩, ⟨0xFE, 0x45E, 2⟩])

def iso88596Set : Codec where
  names   := ["iso8859_6"]
  aliases := [
    "arabic", "asmo_708", "csisolatinarabic", "ecma_114", "iso_8859_6", "iso_8859_6_1987",
    "iso_ir_127"]
  charset := .ok (.page [
    ⟨0x00, 0x0, 161⟩, ⟨0xA4, 0xA4, 1⟩, ⟨0xAC, 0x60C, 1⟩, ⟨0xAD, 0xAD, 1⟩, ⟨0xBB, 0x61B, 1⟩,
    ⟨0xBF, 0x61F, 1⟩, ⟨0xC1, 0x621, 26⟩, ⟨0xE0, 0x640, 19⟩])

def iso88597Set : Codec where
  names   := ["iso8859_7"]
  aliases := [
    "csisolatingreek", "ecma_118", "elot_928", "greek", "greek8", "iso_8859_7", "iso_8859_7_1987",
    "iso_ir_126"]
  charset := .ok (.page [
    ⟨0x00, 0x0, 161⟩, ⟨0xA1, 0x2018, 2⟩, ⟨0xA3, 0xA3, 1⟩, ⟨0xA4, 0x20AC, 1⟩, ⟨0xA5, 0x20AF, 1⟩,
    ⟨0xA6, 0xA6, 4⟩, ⟨0xAA, 0x37A, 1⟩, ⟨0xAB, 0xAB, 3⟩, ⟨0xAF, 0x2015, 1⟩, ⟨0xB0, 0xB0, 4⟩,
    ⟨0xB4, 0x384, 3⟩, ⟨0xB7, 0xB7, 1⟩, ⟨0xB8, 0x388, 3⟩, ⟨0xBB, 0xBB, 1⟩, ⟨0xBC, 0x38C, 1⟩,
    ⟨0xBD, 0xBD, 1⟩, ⟨0xBE, 0x38E, 20⟩, ⟨0xD3, 0x3A3, 44⟩])

def iso88598Set : Codec where
  names   := ["iso8859_8"]
  aliases := ["csisolatinhebrew", "hebrew", "iso_8859_8", "iso_8859_8_1988", "iso_ir_138"]
  charset := .ok (.page [
    ⟨0x00, 0x0, 161⟩, ⟨0xA2, 0xA2, 8⟩, ⟨0xAA, 0xD7, 1⟩, ⟨0xAB, 0xAB, 15⟩, ⟨0xBA, 0xF7, 1⟩,
    ⟨0xBB, 0xBB, 4⟩, ⟨0xDF, 0x2017, 1⟩, ⟨0xE0, 0x5D0, 27⟩, ⟨0xFD, 0x200E, 2⟩])

def iso88599Set : Codec where
  names   := ["iso8859_9"]
  aliases := ["csisolatin5", "iso_8859_9", "iso_8859_9_1989", "iso_ir_148", "l5", "latin5"]
  charset := .ok (.page [
    ⟨0x00, 0x0, 208⟩, ⟨0xD0, 0x11E, 1⟩, ⟨0xD1, 0xD1, 12⟩, ⟨0xDD, 0x130, 1⟩, ⟨0xDE, 0x15E, 1⟩,
    ⟨0xDF, 0xDF, 17⟩, ⟨0xF0, 0x11F, 1⟩, ⟨0xF1, 0xF1, 12⟩, ⟨0xFD, 0x131, 1⟩, ⟨0xFE, 0x15F, 1⟩,
    ⟨0xFF, 0xFF, 1⟩])

def koi8RSet : Codec where
  names   := ["koi8_r"]
  aliases := ["cskoi8r"]
  charset := .ok (.page [
    ⟨0x00, 0x0, 128⟩, ⟨0x80, 0x2500, 1⟩, ⟨0x81, 0x2502, 1⟩, ⟨0x82, 0x250C, 1⟩, ⟨0x83, 0x2510, 1⟩,
    ⟨0x84, 0x2514, 1⟩, ⟨0x85, 0x2518, 1⟩, ⟨0x86, 0x251C, 1⟩, ⟨0x87, 0x2524, 1⟩, ⟨0x88, 0x252C, 1⟩,
    ⟨0x89, 0x2534, 1⟩, ⟨0x8A, 0x253C, 1⟩, ⟨0x8B, 0x2580, 1⟩, ⟨0x8C, 0x2584, 1⟩, ⟨0x8D, 0x2588, 1⟩,
    ⟨0x8E, 0x258C, 1⟩, ⟨0x8F, 0x2590, 4⟩, ⟨0x93, 0x2320, 1⟩, ⟨0x94, 0x25A0, 1⟩, ⟨0x95, 0x2219, 2⟩,
    ⟨0x97, 0x2248, 1⟩, ⟨0x98, 0x2264, 2⟩, ⟨0x9A, 0xA0, 1⟩, ⟨0x9B, 0x2321, 1⟩, ⟨0x9C, 0xB0, 1⟩,
    ⟨0x9D, 0xB2, 1⟩, ⟨0x9E, 0xB7, 1⟩, ⟨0x9F, 0xF7, 1⟩, ⟨0xA0, 0x2550, 3⟩, ⟨0xA3, 0x451, 1⟩,
    ⟨0xA4, 0x2553, 15⟩, ⟨0xB3, 0x401, 1⟩, ⟨0xB4, 0x2562, 11⟩, ⟨0xBF, 0xA9, 1⟩, ⟨0xC0, 0x44E, 1⟩,
    ⟨0xC1, 0x430, 2⟩, ⟨0xC3, 0x446, 1⟩, ⟨0xC4, 0x434, 2⟩, ⟨0xC6, 0x444, 1⟩, ⟨0xC7, 0x433, 1⟩,
    ⟨0xC8, 0x445, 1⟩, ⟨0xC9, 0x438, 8⟩, ⟨0xD1, 0x44F, 1⟩, ⟨0xD2, 0x440, 4⟩, ⟨0xD6, 0x436, 1⟩,
    ⟨0xD7, 0x432, 1⟩, ⟨0xD8, 0x44C, 1⟩, ⟨0xD9, 0x44B, 1⟩, ⟨0xDA, 0x437, 1⟩, ⟨0xDB, 0x448, 1⟩,
    ⟨0xDC, 0x44D, 1⟩, ⟨0xDD, 0x449, 1⟩, ⟨0xDE, 0x447, 1⟩, ⟨0xDF, 0x44A, 1⟩, ⟨0xE0, 0x42E, 1⟩,
    ⟨0xE1, 0x410, 2⟩, ⟨0xE3, 0x426, 1⟩, ⟨0xE4, 0x414, 2⟩, ⟨0xE6, 0x424, 1⟩, ⟨0xE7, 0x413, 1⟩,
    ⟨0xE8, 0x425, 1⟩, ⟨0xE9, 0x418, 8⟩, ⟨0xF1, 0x42F, 1⟩, ⟨0xF2, 0x420, 4⟩, ⟨0xF6, 0x416, 1⟩,
    ⟨0xF7, 0x412, 1⟩, ⟨0xF8, 0x42C, 1⟩, ⟨0xF9, 0x42B, 1⟩, ⟨0xFA, 0x417, 1⟩, ⟨0xFB, 0x428, 1⟩,
    ⟨0xFC, 0x42D, 1⟩, ⟨0xFD, 0x429, 1⟩, ⟨0xFE, 0x427, 1⟩, ⟨0xFF, 0x42A, 1⟩])

def koi8TSet : Codec where
  names   := ["koi8_t"]
  charset := .ok (.page [
    ⟨0x00, 0x0, 128⟩, ⟨0x80, 0x49B, 1⟩, ⟨0x81, 0x493, 1⟩, ⟨0x82, 0x201A, 1⟩, ⟨0x83, 0x492, 1⟩,
    ⟨0x84, 0x201E, 1⟩, ⟨0x85, 0x2026, 1⟩, ⟨0x86, 0x2020, 2⟩, ⟨0x89, 0x2030, 1⟩, ⟨0x8A, 0x4B3, 1⟩,
    ⟨0x8B, 0x2039, 1⟩, ⟨0x8C, 0x4B2, 1⟩, ⟨0x8D, 0x4B7, 1⟩, ⟨0x8E, 0x4B6, 1⟩, ⟨0x90, 0x49A, 1⟩,
    ⟨0x91, 0x2018, 2⟩, ⟨0x93, 0x201C, 2⟩, ⟨0x95, 0x2022, 1⟩, ⟨0x96, 0x2013, 2⟩, ⟨0x99, 0x2122, 1⟩,
    ⟨0x9B, 0x203A, 1⟩, ⟨0xA1, 0x4EF, 1⟩, ⟨0xA2, 0x4EE, 1⟩, ⟨0xA3, 0x451, 1⟩, ⟨0xA4, 0xA4, 1⟩,
    ⟨0xA5, 0x4E3, 1⟩, ⟨0xA6, 0xA6, 2⟩, ⟨0xAB, 0xAB, 4⟩, ⟨0xB0, 0xB0, 3⟩, ⟨0xB3, 0x401, 1⟩,
    ⟨0xB5, 0x4E2, 1⟩, ⟨0xB6, 0xB6, 2⟩, ⟨0xB9, 0x2116, 1⟩, ⟨0xBB, 0xBB, 1⟩, ⟨0xBF, 0xA9, 1⟩,
    ⟨0xC0, 0x44E, 1⟩, ⟨0xC1, 0x430, 2⟩, ⟨0xC3, 0x446, 1⟩, ⟨0xC4, 0x434, 2⟩, ⟨0xC6, 0x444, 1⟩,
    ⟨0xC7, 0x433, 1⟩, ⟨0xC8, 0x445, 1⟩, ⟨0xC9, 0x438, 8⟩, ⟨0xD1, 0x44F, 1⟩, ⟨0xD2, 0x440, 4⟩,
    ⟨0xD6, 0x436, 1⟩, ⟨0xD7, 0x432, 1⟩, ⟨0xD8, 0x44C, 1⟩, ⟨0xD9, 0x44B, 1⟩, ⟨0xDA, 0x437, 1⟩,
    ⟨0xDB, 0x448, 1⟩, ⟨0xDC, 0x44D, 1⟩, ⟨0xDD, 0x449, 1⟩, ⟨0xDE, 0x447, 1⟩, ⟨0xDF, 0x44A, 1⟩,
    ⟨0xE0, 0x42E, 1⟩, ⟨0xE1, 0x410, 2⟩, ⟨0xE3, 0x426, 1⟩, ⟨0xE4, 0x414, 2⟩, ⟨0xE6, 0x424, 1⟩,
    ⟨0xE7, 0x413, 1⟩, ⟨0xE8, 0x425, 1⟩, ⟨0xE9, 0x418, 8⟩, ⟨0xF1, 0x42F, 1⟩, ⟨0xF2, 0x420, 4⟩,
    ⟨0xF6, 0x416, 1⟩, ⟨0xF7, 0x412, 1⟩, ⟨0xF8, 0x42C, 1⟩, ⟨0xF9, 0x42B, 1⟩, ⟨0xFA, 0x417, 1⟩,
    ⟨0xFB, 0x428, 1⟩, ⟨0xFC, 0x42D, 1⟩, ⟨0xFD, 0x429, 1⟩, ⟨0xFE, 0x427, 1⟩, ⟨0xFF, 0x42A, 1⟩])

def koi8USet : Codec where
  names   := ["koi8_u"]
  charset := .ok (.page [
    ⟨0x00, 0x0, 128⟩, ⟨0x80, 0x2500, 1⟩, ⟨0x81, 0x2502, 1⟩, ⟨0x82, 0x250C, 1⟩, ⟨0x83, 0x2510, 1⟩,
    ⟨0x84, 0x2514, 1⟩, ⟨0x85, 0x2518, 1⟩, ⟨0x86, 0x251C, 1⟩, ⟨0x87, 0x2524, 1⟩, ⟨0x88, 0x252C, 1⟩,
    ⟨0x89, 0x2534, 1⟩, ⟨0x8A, 0x253C, 1⟩, ⟨0x8B, 0x2580, 1⟩, ⟨0x8C, 0x2584, 1⟩, ⟨0x8D, 0x2588, 1⟩,
    ⟨0x8E, 0x258C, 1⟩, ⟨0x8F, 0x2590, 4⟩, ⟨0x93, 0x2320, 1⟩, ⟨0x94, 0x25A0, 1⟩, ⟨0x95, 0x2219, 2⟩,
    ⟨0x97, 0x2248, 1⟩, ⟨0x98, 0x2264, 2⟩, ⟨0x9A, 0xA0, 1⟩, ⟨0x9B, 0x2321, 1⟩, ⟨0x9C, 0xB0, 1⟩,
    ⟨0x9D, 0xB2, 1⟩, ⟨0x9E, 0xB7, 1⟩, ⟨0x9F, 0xF7, 1⟩, ⟨0xA0, 0x2550, 3⟩, ⟨0xA3, 0x451, 1⟩,
    ⟨0xA4, 0x454, 1⟩, ⟨0xA5, 0x2554, 1⟩, ⟨0xA6, 0x456, 2⟩, ⟨0xA8, 0x2557, 5⟩, ⟨0xAD, 0x491, 1⟩,
    ⟨0xAE, 0x255D, 5⟩, ⟨0xB3, 0x401, 1⟩, ⟨0xB4, 0x404, 1⟩, ⟨0xB5, 0x2563, 1⟩, ⟨0xB6, 0x406, 2⟩,
    ⟨0xB8, 0x2566, 5⟩, ⟨0xBD, 0x490, 1⟩, ⟨0xBE, 0x256C, 1⟩, ⟨0xBF, 0xA9, 1⟩, ⟨0xC0, 0x44E, 1⟩,
    ⟨0xC1, 0x430, 2⟩, ⟨0xC3, 0x446, 1⟩, ⟨0xC4, 0x434, 2⟩, ⟨0xC6, 0x444, 1⟩, ⟨0xC7, 0x433, 1⟩,
    ⟨0xC8, 0x445, 1⟩, ⟨0xC9, 0x438, 8⟩, ⟨0xD1, 0x44F, 1⟩, ⟨0xD2, 0x440, 4⟩, ⟨0xD6, 0x436, 1⟩,
    ⟨0xD7, 0x432, 1⟩, ⟨0xD8, 0x44C, 1⟩, ⟨0xD9, 0x44B, 1⟩, ⟨0xDA, 0x437, 1⟩, ⟨0xDB, 0x448, 1⟩,
    ⟨0xDC, 0x44D, 1⟩, ⟨0xDD, 0x449, 1⟩, ⟨0xDE, 0x447, 1⟩, ⟨0xDF, 0x44A, 1⟩, ⟨0xE0, 0x42E, 1⟩,
    ⟨0xE1, 0x410, 2⟩, ⟨0xE3, 0x426, 1⟩, ⟨0xE4, 0x414, 2⟩, ⟨0xE6, 0x424, 1⟩, ⟨0xE7, 0x413, 1⟩,
    ⟨0xE8, 0x425, 1⟩, ⟨0xE9, 0x418, 8⟩, ⟨0xF1, 0x42F, 1⟩, ⟨0xF2, 0x420, 4⟩, ⟨0xF6, 0x416, 1⟩,
    ⟨0xF7, 0x412, 1⟩, ⟨0xF8, 0x42C, 1⟩, ⟨0xF9, 0x42B, 1⟩, ⟨0xFA, 0x417, 1⟩, ⟨0xFB, 0x428, 1⟩,
    ⟨0xFC, 0x42D, 1⟩, ⟨0xFD, 0x429, 1⟩, ⟨0xFE, 0x427, 1⟩, ⟨0xFF, 0x42A, 1⟩])

def kz1048Set : Codec where
  names   := ["kz1048"]
  aliases := ["kz_1048", "rk1048", "strk1048_2002"]
  charset := .ok (.page [
    ⟨0x00, 0x0, 128⟩, ⟨0x80, 0x402, 2⟩, ⟨0x82, 0x201A, 1⟩, ⟨0x83, 0x453, 1⟩, ⟨0x84, 0x201E, 1⟩,
    ⟨0x85, 0x2026, 1⟩, ⟨0x86, 0x2020, 2⟩, ⟨0x88, 0x20AC, 1⟩, ⟨0x89, 0x2030, 1⟩, ⟨0x8A, 0x409, 1⟩,
    ⟨0x8B, 0x2039, 1⟩, ⟨0x8C, 0x40A, 1⟩, ⟨0x8D, 0x49A, 1⟩, ⟨0x8E, 0x4BA, 1⟩, ⟨0x8F, 0x40F, 1⟩,
    ⟨0x90, 0x452, 1⟩, ⟨0x91, 0x2018, 2⟩, ⟨0x93, 0x201C, 2⟩, ⟨0x95, 0x2022, 1⟩, ⟨0x96, 0x2013, 2⟩,
    ⟨0x99, 0x2122, 1⟩, ⟨0x9A, 0x459, 1⟩, ⟨0x9B, 0x203A, 1⟩, ⟨0x9C, 0x45A, 1⟩, ⟨0x9D, 0x49B, 1⟩,
    ⟨0x9E, 0x4BB, 1⟩, ⟨0x9F, 0x45F, 1⟩, ⟨0xA0, 0xA0, 1⟩, ⟨0xA1, 0x4B0, 2⟩, ⟨0xA3, 0x4D8, 1⟩,
    ⟨0xA4, 0xA4, 1⟩, ⟨0xA5, 0x4E8, 1⟩, ⟨0xA6, 0xA6, 2⟩, ⟨0xA8, 0x401, 1⟩, ⟨0xA9, 0xA9, 1⟩,
    ⟨0xAA, 0x492, 1⟩, ⟨0xAB, 0xAB, 4⟩, ⟨0xAF, 0x4AE, 1⟩, ⟨0xB0, 0xB0, 2⟩, ⟨0xB2, 0x406, 1⟩,
    ⟨0xB3, 0x456, 1⟩, ⟨0xB4, 0x4E9, 1⟩, ⟨0xB5, 0xB5, 3⟩, ⟨0xB8, 0x451, 1⟩, ⟨0xB9, 0x2116, 1⟩,
    ⟨0xBA, 0x493, 1⟩, ⟨0xBB, 0xBB, 1⟩, ⟨0xBC, 0x4D9, 1⟩, ⟨0xBD, 0x4A2, 2⟩, ⟨0xBF, 0x4AF, 1⟩,
    ⟨0xC0, 0x410, 64⟩])

def macCroatianSet : Codec where
  names   := ["mac_croatian"]
  charset := .ok (.page [
    ⟨0x00, 0x0, 128⟩, ⟨0x80, 0xC4, 2⟩, ⟨0x82, 0xC7, 1⟩, ⟨0x83, 0xC9, 1⟩, ⟨0x84, 0xD1, 1⟩,
    ⟨0x85, 0xD6, 1⟩, ⟨0x86, 0xDC, 1⟩, ⟨0x87, 0xE1, 1⟩, ⟨0x88, 0xE0, 1⟩, ⟨0x89, 0xE2, 1⟩,
    ⟨0x8A, 0xE4, 1⟩, ⟨0x8B, 0xE3, 1⟩, ⟨0x8C, 0xE5, 1⟩, ⟨0x8D, 0xE7, 1⟩, ⟨0x8E, 0xE9, 1⟩,
    ⟨0x8F, 0xE8, 1⟩, ⟨0x90, 0xEA, 2⟩, ⟨0x92, 0xED, 1⟩, ⟨0x93, 0xEC, 1⟩, ⟨0x94, 0xEE, 2⟩,
    ⟨0x96, 0xF1, 1⟩, ⟨0x97, 0xF3, 1⟩, ⟨0x98, 0xF2, 1⟩, ⟨0x99, 0xF4, 1⟩, ⟨0x9A, 0xF6, 1⟩,
    ⟨0x9B, 0xF5, 1⟩, ⟨0x9C, 0xFA, 1⟩, ⟨0x9D, 0xF9, 1⟩, ⟨0x9E, 0xFB, 2⟩, ⟨0xA0, 0x2020, 1⟩,
    ⟨0xA1, 0xB0, 1⟩, ⟨0xA2, 0xA2, 2⟩, ⟨0xA4, 0xA7, 1⟩, ⟨0xA5, 0x2022, 1⟩, ⟨0xA6, 0xB6, 1⟩,
    ⟨0xA7, 0xDF, 1⟩, ⟨0xA8, 0xAE, 1⟩, ⟨0xA9, 0x160, 1⟩, ⟨0xAA, 0x2122, 1⟩, ⟨0xAB, 0xB4, 1⟩,
    ⟨0xAC, 0xA8, 1⟩, ⟨0xAD, 0x2260, 1⟩, ⟨0xAE, 0x17D, 1⟩, ⟨0xAF, 0xD8, 1⟩, ⟨0xB0, 0x221E, 1⟩,
    ⟨0xB1, 0xB1, 1⟩, ⟨0xB2, 0x2264, 2⟩, ⟨0xB4, 0x2206, 1⟩, ⟨0xB5, 0xB5, 1⟩, ⟨0xB6, 0x2202, 1⟩,
    ⟨0xB7, 0x2211, 1⟩, ⟨0xB8, 0x220F, 1⟩, ⟨0xB9, 0x161, 1⟩, ⟨0xBA, 0x222B, 1⟩, ⟨0xBB, 0xAA, 1⟩,
    ⟨0xBC, 0xBA, 1⟩, ⟨0xBD, 0x3A9, 1⟩, ⟨0xBE, 0x17E, 1⟩, ⟨0xBF, 0xF8, 1⟩, ⟨0xC0, 0xBF, 1⟩,
    ⟨0xC1, 0xA1, 1⟩, ⟨0xC2, 0xAC, 1⟩, ⟨0xC3, 0x221A, 1⟩, ⟨0xC4, 0x192, 1⟩, ⟨0xC5, 0x2248, 1⟩,
    ⟨0xC6, 0x106, 1⟩, ⟨0xC7, 0xAB, 1⟩, ⟨0xC8, 0x10C, 1⟩, ⟨0xC9, 0x2026, 1⟩, ⟨0xCA, 0xA0, 1⟩,
    ⟨0xCB, 0xC0, 1⟩, ⟨0xCC, 0xC3, 1⟩, ⟨0xCD, 0xD5, 1⟩, ⟨0xCE, 0x152, 2⟩, ⟨0xD0, 0x110, 1⟩,
    ⟨0xD1, 0x2014, 1⟩, ⟨0xD2, 0x201C, 2⟩, ⟨0xD4, 0x2018, 2⟩, ⟨0xD6, 0xF7, 1⟩, ⟨0xD7, 0x25CA, 1⟩,
    ⟨0xD8, 0xF8FF, 1⟩, ⟨0xD9, 0xA9, 1⟩, ⟨0xDA, 0x2044, 1⟩, ⟨0xDB, 0x20AC, 1⟩, ⟨0xDC, 0x2039, 2⟩,
    ⟨0xDE, 0xC6, 1⟩, ⟨0xDF, 0xBB, 1⟩, ⟨0xE0, 0x2013, 1⟩, ⟨0xE1, 0xB7, 1⟩, ⟨0xE2, 0x201A, 1⟩,
    ⟨0xE3, 0x201E, 1⟩, ⟨0xE4, 0x2030, 1⟩, ⟨0xE5, 0xC2, 1⟩, ⟨0xE6, 0x107, 1⟩, ⟨0xE7, 0xC1, 1⟩,
    ⟨0xE8, 0x10D, 1⟩, ⟨0xE9, 0xC8, 1⟩, ⟨0xEA, 0xCD, 3⟩, ⟨0xED, 0xCC, 1⟩, ⟨0xEE, 0xD3, 2⟩,
    ⟨0xF0, 0x111, 1⟩, ⟨0xF1, 0xD2, 1⟩, ⟨0xF2, 0xDA, 2⟩, ⟨0xF4, 0xD9, 1⟩, ⟨0xF5, 0x131, 1⟩,
    ⟨0xF6, 0x2C6, 1⟩, ⟨0xF7, 0x2DC, 1⟩, ⟨0xF8, 0xAF, 1⟩, ⟨0xF9, 0x3C0, 1⟩, ⟨0xFA, 0xCB, 1⟩,
    ⟨0xFB, 0x2DA, 1⟩, ⟨0xFC, 0xB8, 1⟩, ⟨0xFD, 0xCA, 1⟩, ⟨0xFE, 0xE6, 1⟩, ⟨0xFF, 0x2C7, 1⟩])

def macCyrillicSet : Codec where
  names   := ["mac_cyrillic"]
  aliases := ["maccyrillic"]
  charset := .ok (.page [
    ⟨0x00, 0x0, 128⟩, ⟨0x80, 0x410, 32⟩, ⟨0xA0, 0x2020, 1⟩, ⟨0xA1, 0xB0, 1⟩, ⟨0xA2, 0x490, 1⟩,
    ⟨0xA3, 0xA3, 1⟩, ⟨0xA4, 0xA7, 1⟩, ⟨0xA5, 0x2022, 1⟩, ⟨0xA6, 0xB6, 1⟩, ⟨0xA7, 0x406, 1⟩,
    ⟨0xA8, 0xAE, 1⟩, ⟨0xA9, 0xA9, 1⟩, ⟨0xAA, 0x2122, 1⟩, ⟨0xAB, 0x402, 1⟩, ⟨0xAC, 0x452, 1⟩,
    ⟨0xAD, 0x2260, 1⟩, ⟨0xAE, 0x403, 1⟩, ⟨0xAF, 0x453, 1⟩, ⟨0xB0, 0x221E, 1⟩, ⟨0xB1, 0xB1, 1⟩,
    ⟨0xB2, 0x2264, 2⟩, ⟨0xB4, 0x456, 1⟩, ⟨0xB5, 0xB5, 1⟩, ⟨0xB6, 0x491, 1⟩, ⟨0xB7, 0x408, 1⟩,
    ⟨0xB8, 0x404, 1⟩, ⟨0xB9, 0x454, 1⟩, ⟨0xBA, 0x407, 1⟩, ⟨0xBB, 0x457, 1⟩, ⟨0xBC, 0x409, 1⟩,
    ⟨0xBD, 0x459, 1⟩, ⟨0xBE, 0x40A, 1⟩, ⟨0xBF, 0x45A, 1⟩, ⟨0xC0, 0x458, 1⟩, ⟨0xC1, 0x405, 1⟩,
    ⟨0xC2, 0xAC, 1⟩, ⟨0xC3, 0x221A, 1⟩, ⟨0xC4, 0x192, 1⟩, ⟨0xC5, 0x2248, 1⟩, ⟨0xC6, 0x2206, 1⟩,
    ⟨0xC7, 0xAB, 1⟩, ⟨0xC8, 0xBB, 1⟩, ⟨0xC9, 0x2026, 1⟩, ⟨0xCA, 0xA0, 1⟩, ⟨0xCB, 0x40B, 1⟩,
    ⟨0xCC, 0x45B, 1⟩, ⟨0xCD, 0x40C, 1⟩, ⟨0xCE, 0x45C, 1⟩, ⟨0xCF, 0x455, 1⟩, ⟨0xD0, 0x2013, 2⟩,
    ⟨0xD2, 0x201C, 2⟩, ⟨0xD4, 0x2018, 2⟩, ⟨0xD6, 0xF7, 1⟩, ⟨0xD7, 0x201E, 1⟩, ⟨0xD8, 0x40E, 1⟩,
    ⟨0xD9, 0x45E, 1⟩, ⟨0xDA, 0x40F, 1⟩, ⟨0xDB, 0x45F, 1⟩, ⟨0xDC, 0x2116, 1⟩, ⟨0xDD, 0x401, 1⟩,
    ⟨0xDE, 0x451, 1⟩, ⟨0xDF, 0x44F, 1⟩, ⟨0xE0, 0x430, 31⟩, ⟨0xFF, 0x20AC, 1⟩])

def macGreekSet : Codec where
  names   := ["mac_greek"]
  aliases := ["macgreek"]
  charset := .ok (.page [
    ⟨0x00, 0x0, 128⟩, ⟨0x80, 0xC4, 1⟩, ⟨0x81, 0xB9, 1⟩, ⟨0x82, 0xB2, 1⟩, ⟨0x83, 0xC9, 1⟩,
    ⟨0x84, 0xB3, 1⟩, ⟨0x85, 0xD6, 1⟩, ⟨0x86, 0xDC, 1⟩, ⟨0x87, 0x385, 1⟩, ⟨0x88, 0xE0, 1⟩,
    ⟨0x89, 0xE2, 1⟩, ⟨0x8A, 0xE4, 1⟩, ⟨0x8B, 0x384, 1⟩, ⟨0x8C, 0xA8, 1⟩, ⟨0x8D, 0xE7, 1⟩,
    ⟨0x8E, 0xE9, 1⟩, ⟨0x8F, 0xE8, 1⟩, ⟨0x90, 0xEA, 2⟩, ⟨0x92, 0xA3, 1⟩, ⟨0x93, 0x2122, 1⟩,
    ⟨0x94, 0xEE, 2⟩, ⟨0x96, 0x2022, 1⟩, ⟨0x97, 0xBD, 1⟩, ⟨0x98, 0x2030, 1⟩, ⟨0x99, 0xF4, 1⟩,
    ⟨0x9A, 0xF6, 1⟩, ⟨0x9B, 0xA6, 1⟩, ⟨0x9C, 0x20AC, 1⟩, ⟨0x9D, 0xF9, 1⟩, ⟨0x9E, 0xFB, 2⟩,
    ⟨0xA0, 0x2020, 1⟩, ⟨0xA1, 0x393, 2⟩, ⟨0xA3, 0x398, 1⟩, ⟨0xA4, 0x39B, 1⟩, ⟨0xA5, 0x39E, 1⟩,
    ⟨0xA6, 0x3A0, 1⟩, ⟨0xA7, 0xDF, 1⟩, ⟨0xA8, 0xAE, 1⟩, ⟨0xA9, 0xA9, 1⟩, ⟨0xAA, 0x3A3, 1⟩,
    ⟨0xAB, 0x3AA, 1⟩, ⟨0xAC, 0xA7, 1⟩, ⟨0xAD, 0x2260, 1⟩, ⟨0xAE, 0xB0, 1⟩, ⟨0xAF, 0xB7, 1⟩,
    ⟨0xB0, 0x391, 1⟩, ⟨0xB1, 0xB1, 1⟩, ⟨0xB2, 0x2264, 2⟩, ⟨0xB4, 0xA5, 1⟩, ⟨0xB5, 0x392, 1⟩,
    ⟨0xB6, 0x395, 3⟩, ⟨0xB9, 0x399, 2⟩, ⟨0xBB, 0x39C, 1⟩, ⟨0xBC, 0x3A6, 1⟩, ⟨0xBD, 0x3AB, 1⟩,
    ⟨0xBE, 0x3A8, 2⟩, ⟨0xC0, 0x3AC, 1⟩, ⟨0xC1, 0x39D, 1⟩, ⟨0xC2, 0xAC, 1⟩, ⟨0xC3, 0x39F, 1⟩,
    ⟨0xC4, 0x3A1, 1⟩, ⟨0xC5, 0x2248, 1⟩, ⟨0xC6, 0x3A4, 1⟩, ⟨0xC7, 0xAB, 1⟩, ⟨0xC8, 0xBB, 1⟩,
    ⟨0xC9, 0x2026, 1⟩, ⟨0xCA, 0xA0, 1⟩, ⟨0xCB, 0x3A5, 1⟩, ⟨0xCC, 0x3A7, 1⟩, ⟨0xCD, 0x386, 1⟩,
    ⟨0xCE, 0x388, 1⟩, ⟨0xCF, 0x153, 1⟩, ⟨0xD0, 0x2013, 1⟩, ⟨0xD1, 0x2015, 1⟩, ⟨0xD2, 0x201C, 2⟩,
    ⟨0xD4, 0x2018, 2⟩, ⟨0xD6, 0xF7, 1⟩, ⟨0xD7, 0x389, 2⟩, ⟨0xD9, 0x38C, 1⟩, ⟨0xDA, 0x38E, 1⟩,
    ⟨0xDB, 0x3AD, 3⟩, ⟨0xDE, 0x3CC, 1⟩, ⟨0xDF, 0x38F, 1⟩, ⟨0xE0, 0x3CD, 1⟩, ⟨0xE1, 0x3B1, 2⟩,
    ⟨0xE3, 0x3C8, 1⟩, ⟨0xE4, 0x3B4, 2⟩, ⟨0xE6, 0x3C6, 1⟩, ⟨0xE7, 0x3B3, 1⟩, ⟨0xE8, 0x3B7, 1⟩,
    ⟨0xE9, 0x3B9, 1⟩, ⟨0xEA, 0x3BE, 1⟩, ⟨0xEB, 0x3BA, 4⟩, ⟨0xEF, 0x3BF, 2⟩, ⟨0xF1, 0x3CE, 1⟩,
    ⟨0xF2, 0x3C1, 1⟩, ⟨0xF3, 0x3C3, 2⟩, ⟨0xF5, 0x3B8, 1⟩, ⟨0xF6, 0x3C9, 1⟩, ⟨0xF7, 0x3C2, 1⟩,
    ⟨0xF8, 0x3C7, 1⟩, ⟨0xF9, 0x3C5, 1⟩, ⟨0xFA, 0x3B6, 1⟩, ⟨0xFB, 0x3CA, 2⟩, ⟨0xFD, 0x390, 1⟩,
    ⟨0xFE, 0x3B0, 1⟩, ⟨0xFF, 0xAD, 1⟩])

def macIcelandSet : Codec where
  names   := ["mac_iceland"]
  aliases := ["maciceland"]
  charset := .ok (.page [
    ⟨0x00, 0x0, 128⟩, ⟨0x80, 0xC4, 2⟩, ⟨0x82, 0xC7, 1⟩, ⟨0x83, 0xC9, 1⟩, ⟨0x84, 0xD1, 1⟩,
    ⟨0x85, 0xD6, 1⟩, ⟨0x86, 0xDC, 1⟩, ⟨0x87, 0xE1, 1⟩, ⟨0x88, 0xE0, 1⟩, ⟨0x89, 0xE2, 1⟩,
    ⟨0x8A, 0xE4, 1⟩, ⟨0x8B, 0xE3, 1⟩, ⟨0x8C, 0xE5, 1⟩, ⟨0x8D, 0xE7, 1⟩, ⟨0x8E, 0xE9, 1⟩,
    ⟨0x8F, 0xE8, 1⟩, ⟨0x90, 0xEA, 2⟩, ⟨0x92, 0xED, 1⟩, ⟨0x93, 0xEC, 1⟩, ⟨0x94, 0xEE, 2⟩,
    ⟨0x96, 0xF1, 1⟩, ⟨0x97, 0xF3, 1⟩, ⟨0x98, 0xF2, 1⟩, ⟨0x99, 0xF4, 1⟩, ⟨0x9A, 0xF6, 1⟩,
    ⟨0x9B, 0xF5, 1⟩, ⟨0x9C, 0xFA, 1⟩, ⟨0x9D, 0xF9, 1⟩, ⟨0x9E, 0xFB, 2⟩, ⟨0xA0, 0xDD, 1⟩,
    ⟨0xA1, 0xB0, 1⟩, ⟨0xA2, 0xA2, 2⟩, ⟨0xA4, 0xA7, 1⟩, ⟨0xA5, 0x2022, 1⟩, ⟨0xA6, 0xB6, 1⟩,
    ⟨0xA7, 0xDF, 1⟩, ⟨0xA8, 0xAE, 1⟩, ⟨0xA9, 0xA9, 1⟩, ⟨0xAA, 0x2122, 1⟩, ⟨0xAB, 0xB4, 1⟩,
    ⟨0xAC, 0xA8, 1⟩, ⟨0xAD, 0x2260, 1⟩, ⟨0xAE, 0xC6, 1⟩, ⟨0xAF, 0xD8, 1⟩, ⟨0xB0, 0x221E, 1⟩,
    ⟨0xB1, 0xB1, 1⟩, ⟨0xB2, 0x2264, 2⟩, ⟨0xB4, 0xA5, 1⟩, ⟨0xB5, 0xB5, 1⟩, ⟨0xB6, 0x2202, 1⟩,
    ⟨0xB7, 0x2211, 1⟩, ⟨0xB8, 0x220F, 1⟩, ⟨0xB9, 0x3C0, 1⟩, ⟨0xBA, 0x222B, 1⟩, ⟨0xBB, 0xAA, 1⟩,
    ⟨0xBC, 0xBA, 1⟩, ⟨0xBD, 0x3A9, 1⟩, ⟨0xBE, 0xE6, 1⟩, ⟨0xBF, 0xF8, 1⟩, ⟨0xC0, 0xBF, 1⟩,
    ⟨0xC1, 0xA1, 1⟩, ⟨0xC2, 0xAC, 1⟩, ⟨0xC3, 0x221A, 1⟩, ⟨0xC4, 0x192, 1⟩, ⟨0xC5, 0x2248, 1⟩,
    ⟨0xC6, 0x2206, 1⟩, ⟨0xC7, 0xAB, 1⟩, ⟨0xC8, 0xBB, 1⟩, ⟨0xC9, 0x2026, 1⟩, ⟨0xCA, 0xA0, 1⟩,
    ⟨0xCB, 0xC0, 1⟩, ⟨0xCC, 0xC3, 1⟩, ⟨0xCD, 0xD5, 1⟩, ⟨0xCE, 0x152, 2⟩, ⟨0xD0, 0x2013, 2⟩,
    ⟨0xD2, 0x201C, 2⟩, ⟨0xD4, 0x2018, 2⟩, ⟨0xD6, 0xF7, 1⟩, ⟨0xD7, 0x25CA, 1⟩, ⟨0xD8, 0xFF, 1⟩,
    ⟨0xD9, 0x178, 1⟩, ⟨0xDA, 0x2044, 1⟩, ⟨0xDB, 0x20AC, 1⟩, ⟨0xDC, 0xD0, 1⟩, ⟨0xDD, 0xF0, 1⟩,
    ⟨0xDE, 0xDE, 1⟩, ⟨0xDF, 0xFE, 1⟩, ⟨0xE0, 0xFD, 1⟩, ⟨0xE1, 0xB7, 1⟩, ⟨0xE2, 0x201A, 1⟩,
    ⟨0xE3, 0x201E, 1⟩, ⟨0xE4, 0x2030, 1⟩, ⟨0xE5, 0xC2, 1⟩, ⟨0xE6, 0xCA, 1⟩, ⟨0xE7, 0xC1, 1⟩,
    ⟨0xE8, 0xCB, 1⟩, ⟨0xE9, 0xC8, 1⟩, ⟨0xEA, 0xCD, 3⟩, ⟨0xED, 0xCC, 1⟩, ⟨0xEE, 0xD3, 2⟩,
    ⟨0xF0, 0xF8FF, 1⟩, ⟨0xF1, 0xD2, 1⟩, ⟨0xF2, 0xDA, 2⟩, ⟨0xF4, 0xD9, 1⟩, ⟨0xF5, 0x131, 1⟩,
    ⟨0xF6, 0x2C6, 1⟩, ⟨0xF7, 0x2DC, 1⟩, ⟨0xF8, 0xAF, 1⟩, ⟨0xF9, 0x2D8, 3⟩, ⟨0xFC, 0xB8, 1⟩,
    ⟨0xFD, 0x2DD, 1⟩, ⟨0xFE, 0x2DB, 1⟩, ⟨0xFF, 0x2C7, 1⟩])

def macLatin2Set : Codec where
  names   := ["mac_latin2"]
  aliases := ["mac_centeuro", "maccentraleurope", "maclatin2"]
  charset := .ok (.page [
    ⟨0x00, 0x0, 128⟩, ⟨0x80, 0xC4, 1⟩, ⟨0x81, 0x100, 2⟩, ⟨0x83, 0xC9, 1⟩, ⟨0x84, 0x104, 1⟩,
    ⟨0x85, 0xD6, 1⟩, ⟨0x86, 0xDC, 1⟩, ⟨0x87, 0xE1, 1⟩, ⟨0x88, 0x105, 1⟩, ⟨0x89, 0x10C, 1⟩,
    ⟨0x8A, 0xE4, 1⟩, ⟨0x8B, 0x10D, 1⟩, ⟨0x8C, 0x106, 2⟩, ⟨0x8E, 0xE9, 1⟩, ⟨0x8F, 0x179, 2⟩,
    ⟨0x91, 0x10E, 1⟩, ⟨0x92, 0xED, 1⟩, ⟨0x93, 0x10F, 1⟩, ⟨0x94, 0x112, 2⟩, ⟨0x96, 0x116, 1⟩,
    ⟨0x97, 0xF3, 1⟩, ⟨0x98, 0x117, 1⟩, ⟨0x99, 0xF4, 1⟩, ⟨0x9A, 0xF6, 1⟩, ⟨0x9B, 0xF5, 1⟩,
    ⟨0x9C, 0xFA, 1⟩, ⟨0x9D, 0x11A, 2⟩, ⟨0x9F, 0xFC, 1⟩, ⟨0xA0, 0x2020, 1⟩, ⟨0xA1, 0xB0, 1⟩,
    ⟨0xA2, 0x118, 1⟩, ⟨0xA3, 0xA3, 1⟩, ⟨0xA4, 0xA7, 1⟩, ⟨0xA5, 0x2022, 1⟩, ⟨0xA6, 0xB6, 1⟩,
    ⟨0xA7, 0xDF, 1⟩, ⟨0xA8, 0xAE, 1⟩, ⟨0xA9, 0xA9, 1⟩, ⟨0xAA, 0x2122, 1⟩, ⟨0xAB, 0x119, 1⟩,
    ⟨0xAC, 0xA8, 1⟩, ⟨0xAD, 0x2260, 1⟩, ⟨0xAE, 0x123, 1⟩, ⟨0xAF, 0x12E, 2⟩, ⟨0xB1, 0x12A, 1⟩,
    ⟨0xB2, 0x2264, 2⟩, ⟨0xB4, 0x12B, 1⟩, ⟨0xB5, 0x136, 1⟩, ⟨0xB6, 0x2202, 1⟩, ⟨0xB7, 0x2211, 1⟩,
    ⟨0xB8, 0x142, 1⟩, ⟨0xB9, 0x13B, 4⟩, ⟨0xBD, 0x139, 2⟩, ⟨0xBF, 0x145, 2⟩, ⟨0xC1, 0x143, 1⟩,
    ⟨0xC2, 0xAC, 1⟩, ⟨0xC3, 0x221A, 1⟩, ⟨0xC4, 0x144, 1⟩, ⟨0xC5, 0x147, 1⟩, ⟨0xC6, 0x2206, 1⟩,
    ⟨0xC7, 0xAB, 1⟩, ⟨0xC8, 0xBB, 1⟩, ⟨0xC9, 0x2026, 1⟩, ⟨0xCA, 0xA0, 1⟩, ⟨0xCB, 0x148, 1⟩,
    ⟨0xCC, 0x150, 1⟩, ⟨0xCD, 0xD5, 1⟩, ⟨0xCE, 0x151, 1⟩, ⟨0xCF, 0x14C, 1⟩, ⟨0xD0, 0x2013, 2⟩,
    ⟨0xD2, 0x201C, 2⟩, ⟨0xD4, 0x2018, 2⟩, ⟨0xD6, 0xF7, 1⟩, ⟨0xD7, 0x25CA, 1⟩, ⟨0xD8, 0x14D, 1⟩,
    ⟨0xD9, 0x154, 2⟩, ⟨0xDB, 0x158, 1⟩, ⟨0xDC, 0x2039, 2⟩, ⟨0xDE, 0x159, 1⟩, ⟨0xDF, 0x156, 2⟩,
    ⟨0xE1, 0x160, 1⟩, ⟨0xE2, 0x201A, 1⟩, ⟨0xE3, 0x201E, 1⟩, ⟨0xE4, 0x161, 1⟩, ⟨0xE5, 0x15A, 2⟩,
    ⟨0xE7, 0xC1, 1⟩, ⟨0xE8, 0x164, 2⟩, ⟨0xEA, 0xCD, 1⟩, ⟨0xEB, 0x17D, 2⟩, ⟨0xED, 0x16A, 1⟩,
    ⟨0xEE, 0xD3, 2⟩, ⟨0xF0, 0x16B, 1⟩, ⟨0xF1, 0x16E, 1⟩, ⟨0xF2, 0xDA, 1⟩, ⟨0xF3, 0x16F, 5⟩,
    ⟨0xF8, 0xDD, 1⟩, ⟨0xF9, 0xFD, 1⟩, ⟨0xFA, 0x137, 1⟩, ⟨0xFB, 0x17B, 1⟩, ⟨0xFC, 0x141, 1⟩,
    ⟨0xFD, 0x17C, 1⟩, ⟨0xFE, 0x122, 1⟩, ⟨0xFF, 0x2C7, 1⟩])

def macRomanSet : Codec where
  names   := ["mac_roman"]
  aliases := ["macintosh", "macroman"]
  charset := .ok (.page [
    ⟨0x00, 0x0, 128⟩, ⟨0x80, 0xC4, 2⟩, ⟨0x82, 0xC7, 1⟩, ⟨0x83, 0xC9, 1⟩, ⟨0x84, 0xD1, 1⟩,
    ⟨0x85, 0xD6, 1⟩, ⟨0x86, 0xDC, 1⟩, ⟨0x87, 0xE1, 1⟩, ⟨0x88, 0xE0, 1⟩, ⟨0x89, 0xE2, 1⟩,
    ⟨0x8A, 0xE4, 1⟩, ⟨0x8B, 0xE3, 1⟩, ⟨0x8C, 0xE5, 1⟩, ⟨0x8D, 0xE7, 1⟩, ⟨0x8E, 0xE9, 1⟩,
    ⟨0x8F, 0xE8, 1⟩, ⟨0x90, 0xEA, 2⟩, ⟨0x92, 0xED, 1⟩, ⟨0x93, 0xEC, 1⟩, ⟨0x94, 0xEE, 2⟩,
    ⟨0x96, 0xF1, 1⟩, ⟨0x97, 0xF3, 1⟩, ⟨0x98, 0xF2, 1⟩, ⟨0x99, 0xF4, 1⟩, ⟨0x9A, 0xF6, 1⟩,
    ⟨0x9B, 0xF5, 1⟩, ⟨0x9C, 0xFA, 1⟩, ⟨0x9D, 0xF9, 1⟩, ⟨0x9E, 0xFB, 2⟩, ⟨0xA0, 0x2020, 1⟩,
    ⟨0xA1, 0xB0, 1⟩, ⟨0xA2, 0xA2, 2⟩, ⟨0xA4, 0xA7, 1⟩, ⟨0xA5, 0x2022, 1⟩, ⟨0xA6, 0xB6, 1⟩,
    ⟨0xA7, 0xDF, 1⟩, ⟨0xA8, 0xAE, 1⟩, ⟨0xA9, 0xA9, 1⟩, ⟨0xAA, 0x2122, 1⟩, ⟨0xAB, 0xB4, 1⟩,
    ⟨0xAC, 0xA8, 1⟩, ⟨0xAD, 0x2260, 1⟩, ⟨0xAE, 0xC6, 1⟩, ⟨0xAF, 0xD8, 1⟩, ⟨0xB0, 0x221E, 1⟩,
    ⟨0xB1, 0xB1, 1⟩, ⟨0xB2, 0x2264, 2⟩, ⟨0xB4, 0xA5, 1⟩, ⟨0xB5, 0xB5, 1⟩, ⟨0xB6, 0x2202, 1⟩,
    ⟨0xB7, 0x2211, 1⟩, ⟨0xB8, 0x220F, 1⟩, ⟨0xB9, 0x3C0, 1⟩, ⟨0xBA, 0x222B, 1⟩, ⟨0xBB, 0xAA, 1⟩,
    ⟨0xBC, 0xBA, 1⟩, ⟨0xBD, 0x3A9, 1⟩, ⟨0xBE, 0xE6, 1⟩, ⟨0xBF, 0xF8, 1⟩, ⟨0xC0, 0xBF, 1⟩,
    ⟨0xC1, 0xA1, 1⟩, ⟨0xC2, 0xAC, 1⟩, ⟨0xC3, 0x221A, 1⟩, ⟨0xC4, 0x192, 1⟩, ⟨0xC5, 0x2248, 1⟩,
    ⟨0xC6, 0x2206, 1⟩, ⟨0xC7, 0xAB, 1⟩, ⟨0xC8, 0xBB, 1⟩, ⟨0xC9, 0x2026, 1⟩, ⟨0xCA, 0xA0, 1⟩,
    ⟨0xCB, 0xC0, 1⟩, ⟨0xCC, 0xC3, 1⟩, ⟨0xCD, 0xD5, 1⟩, ⟨0xCE, 0x152, 2⟩, ⟨0xD0, 0x2013, 2⟩,
    ⟨0xD2, 0x201C, 2⟩, ⟨0xD4, 0x2018, 2⟩, ⟨0xD6, 0xF7, 1⟩, ⟨0xD7, 0x25CA, 1⟩, ⟨0xD8, 0xFF, 1⟩,
    ⟨0xD9, 0x178, 1⟩, ⟨0xDA, 0x2044, 1⟩, ⟨0xDB, 0x20AC, 1⟩, ⟨0xDC, 0x2039, 2⟩, ⟨0xDE, 0xFB01, 2⟩,
    ⟨0xE0, 0x2021, 1⟩, ⟨0xE1, 0xB7, 1⟩, ⟨0xE2, 0x201A, 1⟩, ⟨0xE3, 0x201E, 1⟩, ⟨0xE4, 0x2030, 1⟩,
    ⟨0xE5, 0xC2, 1⟩, ⟨0xE6, 0xCA, 1⟩, ⟨0xE7, 0xC1, 1⟩, ⟨0xE8, 0xCB, 1⟩, ⟨0xE9, 0xC8, 1⟩,
    ⟨0xEA, 0xCD, 3⟩, ⟨0xED, 0xCC, 1⟩, ⟨0xEE, 0xD3, 2⟩, ⟨0xF0, 0xF8FF, 1⟩, ⟨0xF1, 0xD2, 1⟩,
    ⟨0xF2, 0xDA, 2⟩, ⟨0xF4, 0xD9, 1⟩, ⟨0xF5, 0x131, 1⟩, ⟨0xF6, 0x2C6, 1⟩, ⟨0xF7, 0x2DC, 1⟩,
    ⟨0xF8, 0xAF, 1⟩, ⟨0xF9, 0x2D8, 3⟩, ⟨0xFC, 0xB8, 1⟩, ⟨0xFD, 0x2DD, 1⟩, ⟨0xFE, 0x2DB, 1⟩,
    ⟨0xFF, 0x2C7, 1⟩])

def macRomanianSet : Codec where
  names   := ["mac_romanian"]
  charset := .ok (.page [
    ⟨0x00, 0x0, 128⟩, ⟨0x80, 0xC4, 2⟩, ⟨0x82, 0xC7, 1⟩, ⟨0x83, 0xC9, 1⟩, ⟨0x84, 0xD1, 1⟩,
    ⟨0x85, 0xD6, 1⟩, ⟨0x86, 0xDC, 1⟩, ⟨0x87, 0xE1, 1⟩, ⟨0x88, 0xE0, 1⟩, ⟨0x89, 0xE2, 1⟩,
    ⟨0x8A, 0xE4, 1⟩, ⟨0x8B, 0xE3, 1⟩, ⟨0x8C, 0xE5, 1⟩, ⟨0x8D, 0xE7, 1⟩, ⟨0x8E, 0xE9, 1⟩,
    ⟨0x8F, 0xE8, 1⟩, ⟨0x90, 0xEA, 2⟩, ⟨0x92, 0xED, 1⟩, ⟨0x93, 0xEC, 1⟩, ⟨0x94, 0xEE, 2⟩,
    ⟨0x96, 0xF1, 1⟩, ⟨0x97, 0xF3, 1⟩, ⟨0x98, 0xF2, 1⟩, ⟨0x99, 0xF4, 1⟩, ⟨0x9A, 0xF6, 1⟩,
    ⟨0x9B, 0xF5, 1⟩, ⟨0x9C, 0xFA, 1⟩, ⟨0x9D, 0xF9, 1⟩, ⟨0x9E, 0xFB, 2⟩, ⟨0xA0, 0x2020, 1⟩,
    ⟨0xA1, 0xB0, 1⟩, ⟨0xA2, 0xA2, 2⟩, ⟨0xA4, 0xA7, 1⟩, ⟨0xA5, 0x2022, 1⟩, ⟨0xA6, 0xB6, 1⟩,
    ⟨0xA7, 0xDF, 1⟩, ⟨0xA8, 0xAE, 1⟩, ⟨0xA9, 0xA9, 1⟩, ⟨0xAA, 0x2122, 1⟩, ⟨0xAB, 0xB4, 1⟩,
    ⟨0xAC, 0xA8, 1⟩, ⟨0xAD, 0x2260, 1⟩, ⟨0xAE, 0x102, 1⟩, ⟨0xAF, 0x218, 1⟩, ⟨0xB0, 0x221E, 1⟩,
    ⟨0xB1, 0xB1, 1⟩, ⟨0xB2, 0x2264, 2⟩, ⟨0xB4, 0xA5, 1⟩, ⟨0xB5, 0xB5, 1⟩, ⟨0xB6, 0x2202, 1⟩,
    ⟨0xB7, 0x2211, 1⟩, ⟨0xB8, 0x220F, 1⟩, ⟨0xB9, 0x3C0, 1⟩, ⟨0xBA, 0x222B, 1⟩, ⟨0xBB, 0xAA, 1⟩,
    ⟨0xBC, 0xBA, 1⟩, ⟨0xBD, 0x3A9, 1⟩, ⟨0xBE, 0x103, 1⟩, ⟨0xBF, 0x219, 1⟩, ⟨0xC0, 0xBF, 1⟩,
    ⟨0xC1, 0xA1, 1⟩, ⟨0xC2, 0xAC, 1⟩, ⟨0xC3, 0x221A, 1⟩, ⟨0xC4, 0x192, 1⟩, ⟨0xC5, 0x2248, 1⟩,
    ⟨0xC6, 0x2206, 1⟩, ⟨0xC7, 0xAB, 1⟩, ⟨0xC8, 0xBB, 1⟩, ⟨0xC9, 0x2026, 1⟩, ⟨0xCA, 0xA0, 1⟩,
    ⟨0xCB, 0xC0, 1⟩, ⟨0xCC, 0xC3, 1⟩, ⟨0xCD, 0xD5, 1⟩, ⟨0xCE, 0x152, 2⟩, ⟨0xD0, 0x2013, 2⟩,
    ⟨0xD2, 0x201C, 2⟩, ⟨0xD4, 0x2018, 2⟩, ⟨0xD6, 0xF7, 1⟩, ⟨0xD7, 0x25CA, 1⟩, ⟨0xD8, 0xFF, 1⟩,
    ⟨0xD9, 0x178, 1⟩, ⟨0xDA, 0x2044, 1⟩, ⟨0xDB, 0x20AC, 1⟩, ⟨0xDC, 0x2039, 2⟩, ⟨0xDE, 0x21A, 2⟩,
    ⟨0xE0, 0x2021, 1⟩, ⟨0xE1, 0xB7, 1⟩, ⟨0xE2, 0x201A, 1⟩, ⟨0xE3, 0x201E, 1⟩, ⟨0xE4, 0x2030, 1⟩,
    ⟨0xE5, 0xC2, 1⟩, ⟨0xE6, 0xCA, 1⟩, ⟨0xE7, 0xC1, 1⟩, ⟨0xE8, 0xCB, 1⟩, ⟨0xE9, 0xC8, 1⟩,
    ⟨0xEA, 0xCD, 3⟩, ⟨0xED, 0xCC, 1⟩, ⟨0xEE, 0xD3, 2⟩, ⟨0xF0, 0xF8FF, 1⟩, ⟨0xF1, 0xD2, 1⟩,
    ⟨0xF2, 0xDA, 2⟩, ⟨0xF4, 0xD9, 1⟩, ⟨0xF5, 0x131, 1⟩, ⟨0xF6, 0x2C6, 1⟩, ⟨0xF7, 0x2DC, 1⟩,
    ⟨0xF8, 0xAF, 1⟩, ⟨0xF9, 0x2D8, 3⟩, ⟨0xFC, 0xB8, 1⟩, ⟨0xFD, 0x2DD, 1⟩, ⟨0xFE, 0x2DB, 1⟩,
    ⟨0xFF, 0x2C7, 1⟩])

def macTurkishSet : Codec where
  names   := ["mac_turkish"]
  aliases := ["macturkish"]
  charset := .ok (.page [
    ⟨0x00, 0x0, 128⟩, ⟨0x80, 0xC4, 2⟩, ⟨0x82, 0xC7, 1⟩, ⟨0x83, 0xC9, 1⟩, ⟨0x84, 0xD1, 1⟩,
    ⟨0x85, 0xD6, 1⟩, ⟨0x86, 0xDC, 1⟩, ⟨0x87, 0xE1, 1⟩, ⟨0x88, 0xE0, 1⟩, ⟨0x89, 0xE2, 1⟩,
    ⟨0x8A, 0xE4, 1⟩, ⟨0x8B, 0xE3, 1⟩, ⟨0x8C, 0xE5, 1⟩, ⟨0x8D, 0xE7, 1⟩, ⟨0x8E, 0xE9, 1⟩,
    ⟨0x8F, 0xE8, 1⟩, ⟨0x90, 0xEA, 2⟩, ⟨0x92, 0xED, 1⟩, ⟨0x93, 0xEC, 1⟩, ⟨0x94, 0xEE, 2⟩,
    ⟨0x96, 0xF1, 1⟩, ⟨0x97, 0xF3, 1⟩, ⟨0x98, 0xF2, 1⟩, ⟨0x99, 0xF4, 1⟩, ⟨0x9A, 0xF6, 1⟩,
    ⟨0x9B, 0xF5, 1⟩, ⟨0x9C, 0xFA, 1⟩, ⟨0x9D, 0xF9, 1⟩, ⟨0x9E, 0xFB, 2⟩, ⟨0xA0, 0x2020, 1⟩,
    ⟨0xA1, 0xB0, 1⟩, ⟨0xA2, 0xA2, 2⟩, ⟨0xA4, 0xA7, 1⟩, ⟨0xA5, 0x2022, 1⟩, ⟨0xA6, 0xB6, 1⟩,
    ⟨0xA7, 0xDF, 1⟩, ⟨0xA8, 0xAE, 1⟩, ⟨0xA9, 0xA9, 1⟩, ⟨0xAA, 0x2122, 1⟩, ⟨0xAB, 0xB4, 1⟩,
    ⟨0xAC, 0xA8, 1⟩, ⟨0xAD, 0x2260, 1⟩, ⟨0xAE, 0xC6, 1⟩, ⟨0xAF, 0xD8, 1⟩, ⟨0xB0, 0x221E, 1⟩,
    ⟨0xB1, 0xB1, 1⟩, ⟨0xB2, 0x2264, 2⟩, ⟨0xB4, 0xA5, 1⟩, ⟨0xB5, 0xB5, 1⟩, ⟨0xB6, 0x2202, 1⟩,
    ⟨0xB7, 0x2211, 1⟩, ⟨0xB8, 0x220F, 1⟩, ⟨0xB9, 0x3C0, 1⟩, ⟨0xBA, 0x222B, 1⟩, ⟨0xBB, 0xAA, 1⟩,
    ⟨0xBC, 0xBA, 1⟩, ⟨0xBD, 0x3A9, 1⟩, ⟨0xBE, 0xE6, 1⟩, ⟨0xBF, 0xF8, 1⟩, ⟨0xC0, 0xBF, 1⟩,
    ⟨0xC1, 0xA1, 1⟩, ⟨0xC2, 0xAC, 1⟩, ⟨0xC3, 0x221A, 1⟩, ⟨0xC4, 0x192, 1⟩, ⟨0xC5, 0x2248, 1⟩,
    ⟨0xC6, 0x2206, 1⟩, ⟨0xC7, 0xAB, 1⟩, ⟨0xC8, 0xBB, 1⟩, ⟨0xC9, 0x2026, 1⟩, ⟨0xCA, 0xA0, 1⟩,
    ⟨0xCB, 0xC0, 1⟩, ⟨0xCC, 0xC3, 1⟩, ⟨0xCD, 0xD5, 1⟩, ⟨0xCE, 0x152, 2⟩, ⟨0xD0, 0x2013, 2⟩,
    ⟨0xD2, 0x201C, 2⟩, ⟨0xD4, 0x2018, 2⟩, ⟨0xD6, 0xF7, 1⟩, ⟨0xD7, 0x25CA, 1⟩, ⟨0xD8, 0xFF, 1⟩,
    ⟨0xD9, 0x178, 1⟩, ⟨0xDA, 0x11E, 2⟩, ⟨0xDC, 0x130, 2⟩, ⟨0xDE, 0x15E, 2⟩, ⟨0xE0, 0x2021, 1⟩,
    ⟨0xE1, 0xB7, 1⟩, ⟨0xE2, 0x201A, 1⟩, ⟨0xE3, 0x201E, 1⟩, ⟨0xE4, 0x2030, 1⟩, ⟨0xE5, 0xC2, 1⟩,
    ⟨0xE6, 0xCA, 1⟩, ⟨0xE7, 0xC1, 1⟩, ⟨0xE8, 0xCB, 1⟩, ⟨0xE9, 0xC8, 1⟩, ⟨0xEA, 0xCD, 3⟩,
    ⟨0xED, 0xCC, 1⟩, ⟨0xEE, 0xD3, 2⟩, ⟨0xF0, 0xF8FF, 1⟩, ⟨0xF1, 0xD2, 1⟩, ⟨0xF2, 0xDA, 2⟩,
    ⟨0xF4, 0xD9, 1⟩, ⟨0xF5, 0xF8A0, 1⟩, ⟨0xF6, 0x2C6, 1⟩, ⟨0xF7, 0x2DC, 1⟩, ⟨0xF8, 0xAF, 1⟩,
    ⟨0xF9, 0x2D8, 3⟩, ⟨0xFC, 0xB8, 1⟩, ⟨0xFD, 0x2DD, 1⟩, ⟨0xFE, 0x2DB, 1⟩, ⟨0xFF, 0x2C7, 1⟩])

def palmosSet : Codec where
  names   := ["palmos"]
  charset := .ok (.page [
    ⟨0x00, 0x0, 128⟩, ⟨0x80, 0x20AC, 1⟩, ⟨0x81, 0x81, 1⟩, ⟨0x82, 0x201A, 1⟩, ⟨0x83, 0x192, 1⟩,
    ⟨0x84, 0x201E, 1⟩, ⟨0x85, 0x2026, 1⟩, ⟨0x86, 0x2020, 2⟩, ⟨0x88, 0x2C6, 1⟩, ⟨0x89, 0x2030, 1⟩,
    ⟨0x8A, 0x160, 1⟩, ⟨0x8B, 0x2039, 1⟩, ⟨0x8C, 0x152, 1⟩, ⟨0x8D, 0x2666, 1⟩, ⟨0x8E, 0x2663, 1⟩,
    ⟨0x8F, 0x2665, 1⟩, ⟨0x90, 0x2660, 1⟩, ⟨0x91, 0x2018, 2⟩, ⟨0x93, 0x201C, 2⟩, ⟨0x95, 0x2022, 1⟩,
    ⟨0x96, 0x2013, 2⟩, ⟨0x98, 0x2DC, 1⟩, ⟨0x99, 0x2122, 1⟩, ⟨0x9A, 0x161, 1⟩, ⟨0x9B, 0x9B, 1⟩,
    ⟨0x9C, 0x153, 1⟩, ⟨0x9D, 0x9D, 2⟩, ⟨0x9F, 0x178, 1⟩, ⟨0xA0, 0xA0, 96⟩])

def ptcp154Set : Codec where
  names   := ["ptcp154"]
  aliases := ["cp154", "csptcp154", "cyrillic_asian", "pt154"]
  charset := .ok (.page [
    ⟨0x00, 0x0, 128⟩, ⟨0x80, 0x496, 1⟩, ⟨0x81, 0x492, 1⟩, ⟨0x82, 0x4EE, 1⟩, ⟨0x83, 0x493, 1⟩,
    ⟨0x84, 0x201E, 1⟩, ⟨0x85, 0x2026, 1⟩, ⟨0x86, 0x4B6, 1⟩, ⟨0x87, 0x4AE, 1⟩, ⟨0x88, 0x4B2, 1⟩,
    ⟨0x89, 0x4AF, 1⟩, ⟨0x8A, 0x4A0, 1⟩, ⟨0x8B, 0x4E2, 1⟩, ⟨0x8C, 0x4A2, 1⟩, ⟨0x8D, 0x49A, 1⟩,
    ⟨0x8E, 0x4BA, 1⟩, ⟨0x8F, 0x4B8, 1⟩, ⟨0x90, 0x497, 1⟩, ⟨0x91, 0x2018, 2⟩, ⟨0x93, 0x201C, 2⟩,
    ⟨0x95, 0x2022, 1⟩, ⟨0x96, 0x2013, 2⟩, ⟨0x98, 0x4B3, 1⟩, ⟨0x99, 0x4B7, 1⟩, ⟨0x9A, 0x4A1, 1⟩,
    ⟨0x9B, 0x4E3, 1⟩, ⟨0x9C, 0x4A3, 1⟩, ⟨0x9D, 0x49B, 1⟩, ⟨0x9E, 0x4BB, 1⟩, ⟨0x9F, 0x4B9, 1⟩,
    ⟨0xA0, 0xA0, 1⟩, ⟨0xA1, 0x40E, 1⟩, ⟨0xA2, 0x45E, 1⟩, ⟨0xA3, 0x408, 1⟩, ⟨0xA4, 0x4E8, 1⟩,
    ⟨0xA5, 0x498, 1⟩, ⟨0xA6, 0x4B0, 1⟩, ⟨0xA7, 0xA7, 1⟩, ⟨0xA8, 0x401, 1⟩, ⟨0xA9, 0xA9, 1⟩,
    ⟨0xAA, 0x4D8, 1⟩, ⟨0xAB, 0xAB, 2⟩, ⟨0xAD, 0x4EF, 1⟩, ⟨0xAE, 0xAE, 1⟩, ⟨0xAF, 0x49C, 1⟩,
    ⟨0xB0, 0xB0, 1⟩, ⟨0xB1, 0x4B1, 1⟩, ⟨0xB2, 0x406, 1⟩, ⟨0xB3, 0x456, 1⟩, ⟨0xB4, 0x499, 1⟩,
    ⟨0xB5, 0x4E9, 1⟩, ⟨0xB6, 0xB6, 2⟩, ⟨0xB8, 0x451, 1⟩, ⟨0xB9, 0x2116, 1⟩, ⟨0xBA, 0x4D9, 1⟩,
    ⟨0xBB, 0xBB, 1⟩, ⟨0xBC, 0x458, 1⟩, ⟨0xBD, 0x4AA, 2⟩, ⟨0xBF, 0x49D, 1⟩, ⟨0xC0, 0x410, 64⟩])

def tis620Set : Codec where
  names   := ["tis_620"]
  aliases := ["iso_ir_166", "tis620", "tis_620_0", "tis_620_2529_0", "tis_620_2529_1"]
  charset := .ok (.page [⟨0x00, 0x0, 160⟩, ⟨0xA1, 0xE01, 58⟩, ⟨0xDF, 0xE3F, 29⟩])

def foreignSets : Codec where
  names   := [
    "cp037", "cp1026", "cp1140", "cp273", "cp424", "cp500", "cp864", "cp875", "mac_arabic",
    "mac_farsi"]
  aliases := [
    "037", "1026", "1140", "273", "424", "500", "864", "csibm037", "csibm1026", "csibm273",
    "csibm424", "csibm500", "csibm864", "ebcdic_cp_be", "ebcdic_cp_ca", "ebcdic_cp_ch",
    "ebcdic_cp_he", "ebcdic_cp_nl", "ebcdic_cp_us", "ebcdic_cp_wt", "ibm037", "ibm039", "ibm1026",
    "ibm1140", "ibm273", "ibm424", "ibm500", "ibm864"]
  charset := .ok .foreign

def multiByteSets : Codec where
  names   := [
    "big5", "big5hkscs", "cp932", "cp949", "cp950", "euc_jis_2004", "euc_jisx0213", "euc_jp",
    "euc_kr", "gb18030", "gb2312", "gbk", "iso2022_kr", "johab", "shift_jis", "shift_jis_2004",
    "shift_jisx0213", "utf_16", "utf_16_be", "utf_16_le", "utf_32", "utf_32_be", "utf_32_le",
    "utf_7"]
  aliases := [
    "932", "936", "949", "950", "big5_hkscs", "big5_tw", "chinese", "cp1361", "cp936", "csbig5",
    "csiso2022kr", "csiso58gb231280", "csshiftjis", "euc_cn", "euc_jis2004", "euccn",
    "eucgb2312_cn", "eucjis2004", "eucjisx0213", "eucjp", "euckr", "gb18030_2000", "gb2312_1980",
    "gb2312_80", "hkscs", "iso2022kr", "iso_2022_kr", "iso_ir_58", "jisx0213", "korean",
    "ks_c_5601", "ks_c_5601_1987", "ks_x_1001", "ksc5601", "ksx1001", "ms1361", "ms932", "ms936",
    "ms949", "ms950", "ms_kanji", "mskanji", "s_jis", "s_jis_2004", "s_jisx0213", "shiftjis",
    "shiftjis2004", "shiftjisx0213", "sjis", "sjis_2004", "sjisx0213", "u16", "u32", "u7", "u_jis",
    "uhc", "ujis", "unicode_1_1_utf_7", "unicodebigunmarked", "unicodelittleunmarked", "utf16",
    "utf32", "utf7", "utf_16be", "utf_16le", "utf_32be", "utf_32le", "x_mac_japanese",
    "x_mac_korean", "x_mac_simp_chinese", "x_mac_trad_chinese"]
  charset := .error .multiByte

def binaryCodings : Codec where
  names   := [
    "base64_codec", "bz2_codec", "hex_codec", "quopri_codec", "rot_13", "uu_codec", "zlib_codec"]
  aliases := [
    "base64", "base_64", "bz2", "hex", "quopri", "quoted_printable", "quotedprintable", "rot13",
    "uu", "zip", "zlib"]
  charset := .error .noText

def punycode : Codec where
  names   := ["punycode"]
  charset := .error .asciiOnly

def domainNames : Codec where
  names   := ["idna"]
  charset := .error .strict

def undefinedSet : Codec where
  names   := ["undefined"]
  charset := .error .undefined

def codecs : List Codec := [
  asciiSet, latin1Set, cp1006Set, cp1125Set, cp1250Set, cp1251Set, cp1252Set, cp1253Set, cp1254Set,
  cp1255Set, cp1256Set, cp1257Set, cp1258Set, cp437Set, cp720Set, cp737Set, cp775Set, cp850Set,
  cp852Set, cp855Set, cp856Set, cp857Set, cp858Set, cp860Set, cp861Set, cp862Set, cp863Set,
  cp865Set, cp866Set, cp869Set, cp874Set, hpRoman8Set, hzSet, iso885910Set, iso885911Set,
  iso885913Set, iso885914Set, iso885915Set, iso885916Set, iso88592Set, iso88593Set, iso88594Set,
  iso88595Set, iso88596Set, iso88597Set, iso88598Set, iso88599Set, koi8RSet, koi8TSet, koi8USet,
  kz1048Set, macCroatianSet, macCyrillicSet, macGreekSet, macIcelandSet, macLatin2Set, macRomanSet,
  macRomanianSet, macTurkishSet, palmosSet, ptcp154Set, tis620Set, foreignSets, multiByteSets,
  binaryCodings, punycode, domainNames, undefinedSet]

end TypedResources.Xml
