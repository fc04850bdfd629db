import Worksheet.Calendar.ZoneEntry

/-!
# Zones: America, from H to Z

One entry for each zone of the time zone database, in the order of their names.
-/

namespace Worksheet.Zones

def americaLast : List ZoneEntry := [
  ⟨"America/Halifax", [⟨"LMT", (-15264)⟩, ⟨"ADT", (-10800)⟩, ⟨"AST", (-14400)⟩, ⟨"AWT", (-10800)⟩,
      ⟨"APT", (-10800)⟩],
    ["uwdbj4C777go0B9et80Cst9o0Ba2vw0Cssyk0B5rbw0Ccv1g0B69uk0Cc6ys0B6kyk0Cci2s0B67zw0Cci2s0B",
     "6w2k0Cbu040B7lzw0Cbu040B66580Cbu040B7lzw0Cbu040B64ak0Ccls40B5v180Ccv1g0B6j3w0Cc6ys0B79180C",
     "b42s0B7lzw0Cb42s0B7yyk0Cbu040B64ak0Cdbpg0B66580Ccls40B5ed80Cbu040B7lzw0Cb42s0B7lzw0Ccjxg0B",
     "66580Cbh1g0B7lzw0Cb42s0B7lzw0C6uj00D1tzdw0E2dnc0Casys0B7x3w0Casys0B7x3w0Casys0B7x3w0Casys0B",
     "7x3w0Ctw040B7x3w0Casys0B7x3w0Casys0B7x3w0Casys0B7x3w0Ctw040B7x3w0Casys0B7x3w0Casys0B7x3w0C",
     "asys0B7x3w0C1cm2s0B9cyk0C9d440B9cyk0C9d440B9cyk0C9d440B9px80C905g0B9px80C9d440B9cyk0C9d440B",
     "9cyk0C9d440B9cyk0C9d440B9cyk0C9d440B9px80C9d440B9cyk0C9d440B9cyk0C9d440B9cyk0C9d440B9cyk0C",
     "9d440B9px80C905g0B9px80C9d440B9cyk0C9d440B9cyk0C9d440B9cyk0C9d440B9cyk0C9d440B9px80C905g0B",
     "9px80C9d440B9cyk0C9d440B9cyk0C9d440B9cyk0C8a840Bafuk0C8a840Bast80C7x9g0Bast80C7x9g0Bast80C",
     "8a840Bafuk0C8a840Bafuk0C8a840Bast80C7x9g0Bast80C7x9g0Bast80C8a840Bafuk0C8a840Bafuk0C8a840B",
     "afuk0C8a840Bast80C7x9g0Bast80C7x9g0Bast80C8a840Bafuk0C8a840Bafuk0C8a840Bast80C7x9g0Bast80C",
     "7x9g0Bast80C6udg0B"],
    .seasonal ⟨"AST", (-14400)⟩ ⟨"ADT", (-10800)⟩ ⟨3, 2, 0, 7200⟩ ⟨11, 1, 0, 7200⟩⟩,
  ⟨"America/Havana", [⟨"LMT", (-19768)⟩, ⟨"HMT", (-19776)⟩, ⟨"CDT", (-14400)⟩, ⟨"CST", (-18000)⟩],
    ["oeh1o8Bijto08D1icfyoC69uk0D62s040C4ofw0De1ms0C51ek0De1ms0C4ofw0D1fhs40C4ofw0De1ms0C4ofw0D",
     "9s9k40C67zw0Dcedg0C6h980D9o840C7yyk0Db5xg0C7k580Dbvus0C9cyk0D9d440C9cyk0D9d440C9px80D9d440C",
     "8a2k0Dag040C8bx80Dae5g0C8drw0Dacas0C9cyk0D9d440C9px80D905g0C9px80D9q2s0C7x3w0D8a840Cast80D",
     "7x9g0Cast80Dasys0C7x3w0Dasys0C7x3w0Dasys0C7x3w0Dasys0C8a2k0Dag040C8a2k0D7x9g0Cast80D7x9g0C",
     "ast80D8a840Cafuk0D8a840Cafuk0D905g0Ca2vw0D905g0C9q000D902o0C9q000D902o0C9q000D902o0C9q000D",
     "902o0C9q000D9d1c0C9d1c0D9d1c0C9q000D8n400Casw00D7x6o0Cb5uo0D7x6o0Casw00D7x6o0Casw00D8a5c0C",
     "afxc0D8a5c0Cafxc0D7x6o0C1cm000D6uao0Cbvs00D779c0Cbitc0D6uao0Cbvs00D779c0Cbvs00D779c0Cc8qo0D",
     "779c0Cb5uo0D"],
    .seasonal ⟨"CST", (-18000)⟩ ⟨"CDT", (-14400)⟩ ⟨3, 2, 0, 0⟩ ⟨11, 1, 0, 3600⟩⟩,
  ⟨"America/Hermosillo", [⟨"LMT", (-26632)⟩, ⟨"MST", (-25200)⟩, ⟨"CST", (-21600)⟩,
      ⟨"MDT", (-21600)⟩],
    ["153nr74B2u5s00C1si580B8jhg0D7x3w0B9eys0C591h80Bs5qoc0Dafuk0B8a840Dafuk0B8a840Dafuk0B"],
    .steady ⟨"MST", (-25200)⟩⟩,
  ⟨"America/Indiana/Indianapolis", [⟨"LMT", (-20678)⟩, ⟨"CDT", (-18000)⟩, ⟨"CST", (-21600)⟩,
      ⟨"CWT", (-18000)⟩, ⟨"CPT", (-18000)⟩, ⟨"EST", (-18000)⟩, ⟨"EDT", (-14400)⟩],
    ["l7h9r4Chxltk0Bast80C7x9g0Bast80Cbaw840B51ek0C6w840D1tz8c0E2dsw0Casys0B7x3w0Casys0B7x3w0C",
     "asys0B7x3w0Casys0B7x3w0Cb5xg0B7k580Cb5xg0B7x3w0Casys0B7x3w0Casys0B7x3w0Casys0B7x3w0Casys0F",
     "19q7w0Casys0F5qonw0G9cyk0F9d440G9cyk0Fihslg0Gast80F6udg0G"],
    .seasonal ⟨"EST", (-18000)⟩ ⟨"EDT", (-14400)⟩ ⟨3, 2, 0, 7200⟩ ⟨11, 1, 0, 7200⟩⟩,
  ⟨"America/Indiana/Knox", [⟨"LMT", (-20790)⟩, ⟨"CDT", (-18000)⟩, ⟨"CST", (-21600)⟩,
      ⟨"CWT", (-18000)⟩, ⟨"CPT", (-18000)⟩, ⟨"EST", (-18000)⟩],
    ["l7h9r4Chxltk0Bast80C7x9g0Bast80Cbmtus0D1tz8c0E2dsw0Ctj1g0B7x3w0Casys0B7x3w0Casys0B7x3w0C",
     "b5xg0B7k580Cb5xg0B7x3w0Casys0B7x3w0Casys0B7x3w0Casys0B7x3w0Casys0B9px80C9d440B9cyk0C9d440B",
     "7x3w0Casys0B7x3w0Casys0B9cyk0C9d440B9px80C9d440B9cyk0C9d440Fs3180C1twas0B9cyk0C9d440B9cyk0C",
     "9d440B9cyk0C9d440B9cyk0C9d440B9px80C9d440B9cyk0C9d440B9cyk0C3lpg0Bf4d80C64g40Bclmk0C9d440B",
     "9px80C905g0B9px80C9d440B9cyk0C9d440B9cyk0C9d440B9cyk0C9d440B9cyk0C9d440B9px80C905g0B9px80C",
     "9d440B9cyk0C9d440B9cyk0C9d440B9cyk0C8a840Bafuk0C8a840Bast80C7x9g0Bast80C7x9g0Bast80C8a840B",
     "afuk0F7j5400Basw00C6udg0B"],
    .seasonal ⟨"CST", (-21600)⟩ ⟨"CDT", (-18000)⟩ ⟨3, 2, 0, 7200⟩ ⟨11, 1, 0, 7200⟩⟩,
  ⟨"America/Indiana/Marengo", [⟨"LMT", (-20723)⟩, ⟨"CDT", (-18000)⟩, ⟨"CST", (-21600)⟩,
      ⟨"CWT", (-18000)⟩, ⟨"CPT", (-18000)⟩, ⟨"EST", (-18000)⟩, ⟨"EDT", (-14400)⟩],
    ["l7h9r4Chxltk0Bast80C7x9g0Bast80Cbmtus0D1tz8c0E2dsw0C2wsas0B7x3w0C1c9440B7x3w0Casys0B7x3w0C",
     "b5xg0B7x3w0Casys0B7x3w0Casys0B7x3w0Casys0B7x3w0Casys0B7x3w0Cb5xg0F465h80G9cyk0F9d440G9cyk0F",
     "9d440G9px80F9d440G9cyk0F9d440G9cyk0F3lpg0Bf4g00F64dc0Gclmk0Ffvt9g0Gast80F6udg0G"],
    .seasonal ⟨"EST", (-18000)⟩ ⟨"EDT", (-14400)⟩ ⟨3, 2, 0, 7200⟩ ⟨11, 1, 0, 7200⟩⟩,
  ⟨"America/Indiana/Petersburg", [⟨"LMT", (-20947)⟩, ⟨"CDT", (-18000)⟩, ⟨"CST", (-21600)⟩,
      ⟨"CWT", (-18000)⟩, ⟨"CPT", (-18000)⟩, ⟨"EST", (-18000)⟩],
    ["l7h9r4Chxltk0Bast80C7x9g0Bast80Cbmtus0D1tz8c0E2dsw0C501ek0B7kas0Cb5xg0B7x3w0Casys0B7x3w0C",
     "asys0B7x3w0Casys0B7x3w0Casys0B7x3w0Cb5xg0B9cyk0C9d440B9cyk0C9d440B9cyk0C9d440B9cyk0C9d440F",
     "sfzw0C9d440B9cyk0C9d440B9cyk0C9d440B9cyk0C9d440B9cyk0C9d440B9px80C9d440B9cyk0C9d440B9cyk0C",
     "3lpg0Bf4d80C64g40Bclmk0C9d440B9px80C905g0B9px80Feu02o0Basw00C6udg0Bc8nw0F"],
    .seasonal ⟨"EST", (-18000)⟩ ⟨"EDT", (-14400)⟩ ⟨3, 2, 0, 7200⟩ ⟨11, 1, 0, 7200⟩⟩,
  ⟨"America/Indiana/Tell_City", [⟨"LMT", (-20823)⟩, ⟨"CDT", (-18000)⟩, ⟨"CST", (-21600)⟩,
      ⟨"CWT", (-18000)⟩, ⟨"CPT", (-18000)⟩, ⟨"EST", (-18000)⟩, ⟨"EDT", (-14400)⟩],
    ["l7h9r4Chxltk0Bast80C7x9g0Bast80Cbmtus0D1tz8c0E2dsw0C501ek0B7kas0Cb5xg0B7x3w0Casys0B7x3w0C",
     "asys0B7x3w0Casys0B7x3w0Casys0B7x3w0Cb5xg0B9cyk0C9d440B9cyk0C9d440B9cyk0C9d440F1tw580C9d440B",
     "9cyk0C9d440G9cvs0F9d440G9cyk0Fihslg0Basw00C6udg0B"],
    .seasonal ⟨"CST", (-21600)⟩ ⟨"CDT", (-18000)⟩ ⟨3, 2, 0, 7200⟩ ⟨11, 1, 0, 7200⟩⟩,
  ⟨"America/Indiana/Vevay", [⟨"LMT", (-20416)⟩, ⟨"CDT", (-18000)⟩, ⟨"CST", (-21600)⟩,
      ⟨"CWT", (-18000)⟩, ⟨"CPT", (-18000)⟩, ⟨"EST", (-18000)⟩, ⟨"EDT", (-14400)⟩],
    ["l7h9r4Chxltk0Bast80C7x9g0Bast80Cbmtus0D1tz8c0E2dsw0C4gyis0F7txx80G9cyk0F9d440G9cyk0F9d440G",
     "9px80F9d440G9cyk0Fhfzhg0Gast80F6udg0G"],
    .seasonal ⟨"EST", (-18000)⟩ ⟨"EDT", (-14400)⟩ ⟨3, 2, 0, 7200⟩ ⟨11, 1, 0, 7200⟩⟩,
  ⟨"America/Indiana/Vincennes", [⟨"LMT", (-21007)⟩, ⟨"CDT", (-18000)⟩, ⟨"CST", (-21600)⟩,
      ⟨"CWT", (-18000)⟩, ⟨"CPT", (-18000)⟩, ⟨"EST", (-18000)⟩, ⟨"EDT", (-14400)⟩],
    ["l7h9r4Chxltk0Bast80C7x9g0Bast80Cbmtus0D1tz8c0E2dsw0Casys0B7x3w0C3fidg0B7x3w0Casys0B7x3w0C",
     "b5rw0B7kas0Cb5xg0B7x3w0Casys0B7x3w0Casys0B7x3w0Casys0B7x3w0Casys0B9px80C9d440B7k580Cb5xg0B",
     "9cyk0C9d440B9cyk0C9d440F2lz980G9cyk0F9d440G9cyk0Fihslg0Basw00C6udg0Bc8nw0F"],
    .seasonal ⟨"EST", (-18000)⟩ ⟨"EDT", (-14400)⟩ ⟨3, 2, 0, 7200⟩ ⟨11, 1, 0, 7200⟩⟩,
  ⟨"America/Indiana/Winamac", [⟨"LMT", (-20785)⟩, ⟨"CDT", (-18000)⟩, ⟨"CST", (-21600)⟩,
      ⟨"CWT", (-18000)⟩, ⟨"CPT", (-18000)⟩, ⟨"EST", (-18000)⟩, ⟨"EDT", (-14400)⟩],
    ["l7h9r4Chxltk0Bast80C7x9g0Bast80Cbmtus0D1tz8c0E2dsw0Casys0B7x3w0Casys0B7x3w0Casys0B7x3w0C",
     "asys0B7x3w0Cb5xg0B7k580Cb5xg0B7x3w0Casys0B7x3w0Casys0B7x3w0Casys0B7x3w0Casys0B9px80C9d440B",
     "9cyk0C9d440B7x3w0Casys0B7x3w0Casys0B7x3w0Casys0B7x3w0Cb5xg0F465h80G9cyk0F9d440G9cyk0F",
     "ihslg0Basw00C6udg0Gc8l40F"],
    .seasonal ⟨"EST", (-18000)⟩ ⟨"EDT", (-14400)⟩ ⟨3, 2, 0, 7200⟩ ⟨11, 1, 0, 7200⟩⟩,
  ⟨"America/Inuvik", [⟨"-00", 0⟩, ⟨"PDT", (-25200)⟩, ⟨"PST", (-28800)⟩, ⟨"MST", (-25200)⟩,
      ⟨"MDT", (-21600)⟩],
    ["1la3qf4Ca34zs0B9cyk0C9d440B9cyk0C9d440B9cyk0C9d440B9cyk0C9d440B9px80C905g0B9px80C9d440B",
     "9cyk0C9d440E9cvs0D9d440E9cyk0D9d440E9cyk0D9d440E9px80D905g0E9px80D9d440E9cyk0D9d440E9cyk0D",
     "9d440E9cyk0D8a840Eafuk0D8a840East80D7x9g0East80D7x9g0East80D8a840Eafuk0D8a840Eafuk0D8a840E",
     "ast80D7x9g0East80D7x9g0East80D8a840Eafuk0D8a840Eafuk0D8a840Eafuk0D8a840East80D7x9g0East80D",
     "7x9g0East80D8a840Eafuk0D8a840Eafuk0D8a840East80D7x9g0East80D7x9g0East80D6udg0E"],
    .seasonal ⟨"MST", (-25200)⟩ ⟨"MDT", (-21600)⟩ ⟨3, 2, 0, 7200⟩ ⟨11, 1, 0, 7200⟩⟩,
  ⟨"America/Iqaluit", [⟨"-00", 0⟩, ⟨"EPT", (-14400)⟩, ⟨"EST", (-18000)⟩, ⟨"EDT", (-14400)⟩,
      ⟨"EWT", (-14400)⟩, ⟨"CST", (-21600)⟩, ⟨"CDT", (-18000)⟩],
    ["1fubl34E1l3h80B2dq40Cdvfpg0D9cyk0C9d440D9cyk0C9d440D9cyk0C9d440D9cyk0C9d440D9px80C905g0D",
     "9px80C9d440D9cyk0C9d440D9cyk0C9d440D9cyk0C9d440D9cyk0C9d440D9px80C905g0D9px80C9d440D9cyk0C",
     "9d440D9cyk0C9d440D9cyk0C8a840Dafuk0C8a840Dast80C7x9g0Dast80C7x9g0Dast80C8a840Dafuk0C8a840D",
     "afuk0C8a840Dast80C7x9g0Dast80C7x9g0Dast80C8a840Dafuk0C8a840Dafuk0C8a840Dafuk0C8a840Dast80F",
     "7xc80Gast80C7x6o0Dast80C8a840Dafuk0C8a840Dafuk0C8a840Dast80C7x9g0Dast80C7x9g0Dast80C6udg0D"],
    .seasonal ⟨"EST", (-18000)⟩ ⟨"EDT", (-14400)⟩ ⟨3, 2, 0, 7200⟩ ⟨11, 1, 0, 7200⟩⟩,
  ⟨"America/Jamaica", [⟨"LMT", (-18430)⟩, ⟨"KMT", (-18430)⟩, ⟨"EST", (-18000)⟩, ⟨"EDT", (-14400)⟩],
    ["oeh0n2Bbiv6o0Cwbl182Df4d80C64g40Dclmk0C9d440D9px80C905g0D9px80C9d440D9cyk0C9d440D9cyk0C",
     "9d440D9cyk0C9d440D9cyk0C9d440D9px80C905g0D9px80C"],
    .steady ⟨"EST", (-18000)⟩⟩,
  ⟨"America/Juneau", [⟨"LMT", 54139⟩, ⟨"LMT", (-32261)⟩, ⟨"PST", (-28800)⟩, ⟨"PWT", (-25200)⟩,
      ⟨"PPT", (-25200)⟩, ⟨"PDT", (-25200)⟩, ⟨"YDT", (-28800)⟩, ⟨"YST", (-32400)⟩,
      ⟨"AKDT", (-28800)⟩, ⟨"AKST", (-32400)⟩],
    ["cta575Bh4yu44Cln707vD1tz2s0E2dyg0Ccawis0F9cyk0C9d440F9cyk0C9d440F9px80C9d440F9cyk0C9d440F",
     "9cyk0C3lpg0Ff4d80C64g40Fclmk0C9d440F9px80C905g0F9px80C9d440F9cyk0C9d440F9cyk0C9d440G9d1c0C",
     "9d1c0F9cyk0C9d440F9px80C905g0F9px80H1leo0J7rs80I9cyk0J9d440I9cyk0J9d440I9cyk0J8a840Iafuk0J",
     "8a840Iast80J7x9g0Iast80J7x9g0Iast80J8a840Iafuk0J8a840Iafuk0J8a840Iast80J7x9g0Iast80J7x9g0I",
     "ast80J8a840Iafuk0J8a840Iafuk0J8a840Iafuk0J8a840Iast80J7x9g0Iast80J7x9g0Iast80J8a840Iafuk0J",
     "8a840Iafuk0J8a840Iast80J7x9g0Iast80J7x9g0Iast80J6udg0I"],
    .seasonal ⟨"AKST", (-32400)⟩ ⟨"AKDT", (-28800)⟩ ⟨3, 2, 0, 7200⟩ ⟨11, 1, 0, 7200⟩⟩,
  ⟨"America/Kentucky/Louisville", [⟨"LMT", (-20582)⟩, ⟨"CDT", (-18000)⟩, ⟨"CST", (-21600)⟩,
      ⟨"CWT", (-18000)⟩, ⟨"CPT", (-18000)⟩, ⟨"EST", (-18000)⟩, ⟨"EDT", (-14400)⟩],
    ["l7h9r4Chxltk0Bast80C7x9g0Bast80Csg5g0B6bp80Ca98o40B7x3w0C6w840D1tz8c0E2dsw0Cast9oB1sw2cC",
     "21gis0B7k580Cb5xg0B7x3w0Casys0B7x3w0Casys0B7x3w0Casys0B7x3w0Casys0B7x3w0Cb5xg0B9cyk0C9d440B",
     "9cyk0C9d440B9cyk0C9d440B9cyk0C9d440B9px80C9d440B4bh80F3j3xc0G9cyk0F9d440G9cyk0F9d440G9cyk0F",
     "9d440G9px80F9d440G9cyk0F9d440G9cyk0F3lpg0Bf4g00F64dc0Gclmk0F9d440G9px80F905g0G9px80F9d440G",
     "9cyk0F9d440G9cyk0F9d440G9cyk0F9d440G9cyk0F9d440G9px80F905g0G9px80F9d440G9cyk0F9d440G9cyk0F",
     "9d440G9cyk0F8a840Gafuk0F8a840Gast80F7x9g0Gast80F7x9g0Gast80F8a840Gafuk0F8a840Gafuk0F8a840G",
     "ast80F7x9g0Gast80F7x9g0Gast80F8a840Gafuk0F8a840Gafuk0F8a840Gafuk0F8a840Gast80F7x9g0Gast80F",
     "7x9g0Gast80F8a840Gafuk0F8a840Gafuk0F8a840Gast80F7x9g0Gast80F7x9g0Gast80F6udg0G"],
    .seasonal ⟨"EST", (-18000)⟩ ⟨"EDT", (-14400)⟩ ⟨3, 2, 0, 7200⟩ ⟨11, 1, 0, 7200⟩⟩,
  ⟨"America/Kentucky/Monticello", [⟨"LMT", (-20364)⟩, ⟨"CDT", (-18000)⟩, ⟨"CST", (-21600)⟩,
      ⟨"CWT", (-18000)⟩, ⟨"CPT", (-18000)⟩, ⟨"EDT", (-14400)⟩, ⟨"EST", (-18000)⟩],
    ["l7h9r4Chxltk0Bast80C7x9g0Bast80Cbmtus0D1tz8c0E2dsw0Cbs6g40B9cyk0C9d440B9cyk0C9d440B9cyk0C",
     "9d440B9px80C9d440B9cyk0C9d440B9cyk0C3lpg0Bf4d80C64g40Bclmk0C9d440B9px80C905g0B9px80C9d440B",
     "9cyk0C9d440B9cyk0C9d440B9cyk0C9d440B9cyk0C9d440B9px80C905g0B9px80C9d440B9cyk0C9d440B9cyk0C",
     "9d440B9cyk0C8a840Bafuk0C8a840Bast80C7x9g0Bast80C7x9g0Bast80C8a840Bafuk0C8a840Bafuk0C8a840B",
     "ast80C7x9g0Bast80C7x9g0Bast80C8a840Bafuk0C8a840Bafuk0C8a840Bafuk0C8a840Bast80C7x9g0Bast80G",
     "7x6o0Fast80G8a840Fafuk0G8a840Fafuk0G8a840Fast80G7x9g0Fast80G7x9g0Fast80G6udg0F"],
    .seasonal ⟨"EST", (-18000)⟩ ⟨"EDT", (-14400)⟩ ⟨3, 2, 0, 7200⟩ ⟨11, 1, 0, 7200⟩⟩,
  ⟨"America/La_Paz", [⟨"LMT", (-16356)⟩, ⟨"CMT", (-16356)⟩, ⟨"BST", (-12756)⟩, ⟨"-04", (-14400)⟩],
    ["oegz1gBlt1400C84ik0D"],
    .steady ⟨"-04", (-14400)⟩⟩,
  ⟨"America/Lima", [⟨"LMT", (-18492)⟩, ⟨"LMT", (-18516)⟩, ⟨"-04", (-14400)⟩, ⟨"-05", (-18000)⟩],
    ["oeh0osB9ov9coDfcxjloC4ml80D93us0C9cyk0D9d440C9cyk0Dnw16s0C4ml80De5c40C4ml80D1fr1g0C4ml80D",
     "1yiys0C4ml80D"],
    .steady ⟨"-05", (-18000)⟩⟩,
  ⟨"America/Los_Angeles", [⟨"LMT", (-28378)⟩, ⟨"PDT", (-25200)⟩, ⟨"PST", (-28800)⟩,
      ⟨"PWT", (-25200)⟩, ⟨"PPT", (-25200)⟩],
    ["l7hfb4Chxltk0Bast80C7x9g0Bast80Cbmtus0D1tz2s0E2dyg0C1a3c5oBf2iicCowao0B7k800Cb5uo0B7x6o0C",
     "asw00B7x6o0Casw00B7x6o0Casw00B7x6o0Casw00B7x6o0Cb5uo0B7x6o0Casw00B7x6o0Casw00B7x6o0Casw00B",
     "7x6o0Casw00B7x6o0Cb5uo0B7k800Cb5uo0B9d1c0C9d1c0B9d1c0C9d1c0B9d1c0C9d1c0B9q000C902o0B9q000C",
     "9d440B9cyk0C9d440B9cyk0C9d440B9cyk0C9d440B9cyk0C9d440B9px80C9d440B9cyk0C9d440B9cyk0C3lpg0B",
     "f4d80C64g40Bclmk0C9d440B9px80C905g0B9px80C9d440B9cyk0C9d440B9cyk0C9d440B9cyk0C9d440B9cyk0C",
     "9d440B9px80C905g0B9px80C9d440B9cyk0C9d440B9cyk0C9d440B9cyk0C8a840Bafuk0C8a840Bast80C7x9g0B",
     "ast80C7x9g0Bast80C8a840Bafuk0C8a840Bafuk0C8a840Bast80C7x9g0Bast80C7x9g0Bast80C8a840Bafuk0C",
     "8a840Bafuk0C8a840Bafuk0C8a840Bast80C7x9g0Bast80C7x9g0Bast80C8a840Bafuk0C8a840Bafuk0C8a840B",
     "ast80C7x9g0Bast80C7x9g0Bast80C6udg0B"],
    .seasonal ⟨"PST", (-28800)⟩ ⟨"PDT", (-25200)⟩ ⟨3, 2, 0, 7200⟩ ⟨11, 1, 0, 7200⟩⟩,
  ⟨"America/Maceio", [⟨"LMT", (-8572)⟩, ⟨"-02", (-7200)⟩, ⟨"-03", (-10800)⟩],
    ["10xcad8C99kaxwB9a9c0C9io40B99980C8p65g0B6zuo0Cbs2o0B67zw0Ccjxg0B69uk0Ccjxg0B4ml80C5mf440B",
     "49mk0Chaas0B316k0Ccls40B4ml80Ccls40B66580Ccls40B67zw0C981s40B6u7w0Cbiw40B5rbw0Cd0lg0B5ed80C",
     "cyqs0B5ed80Cdbpg0B64ak0C2yl440B64ak0C1wf1g0B7k580Cbiw40Bpuk0Cid6s0B6h980C"],
    .steady ⟨"-03", (-10800)⟩⟩,
  ⟨"America/Managua", [⟨"LMT", (-20708)⟩, ⟨"MMT", (-20712)⟩, ⟨"CST", (-21600)⟩, ⟨"EST", (-18000)⟩,
      ⟨"CDT", (-18000)⟩],
    ["oeh2ecBn7jmo4Cka1i0oDxqqk0C24p6s0E53980Cdmtg0E53980C60itw0Ddq240C53es0D235h80C4beis0E8zzw0C",
     "at4c0E7x140C"],
    .steady ⟨"CST", (-21600)⟩⟩,
  ⟨"America/Manaus", [⟨"LMT", (-14404)⟩, ⟨"-03", (-10800)⟩, ⟨"-04", (-14400)⟩],
    ["10xcev8C99k97wB9a9c0C9io40B99980C8p65g0B6zuo0Cbs2o0B67zw0Ccjxg0B69uk0Ccjxg0B4ml80C5mf440B",
     "49mk0Chaas0B316k0Ccls40B4ml80Ccls40B66580Ccls40B67zw0C981s40B6u7w0Cbiw40B5rbw0Cd0lg0B5ed80C",
     "2yy2s0B6h980C"],
    .steady ⟨"-04", (-14400)⟩⟩,
  ⟨"America/Martinique", [⟨"LMT", (-14660)⟩, ⟨"FFMT", (-14660)⟩, ⟨"AST", (-14400)⟩,
      ⟨"ADT", (-10800)⟩],
    ["oegxqcBb4o2o0Czz5x4sD8zzw0C"],
    .steady ⟨"AST", (-14400)⟩⟩,
  ⟨"America/Matamoros", [⟨"LMT", (-23400)⟩, ⟨"CST", (-21600)⟩, ⟨"CDT", (-18000)⟩],
    ["153nof4Bykt480Cast80B3vppg0Cafuk0B8a840Cafuk0B8a840Cafuk0B8a840Cast80B7x9g0Cast80B9q2s0C",
     "7k580B9q2s0Cafuk0B8a840Cafuk0B8a840Cast80B7x9g0Cast80B7x9g0Cast80B7x9g0Cast80B8a840Cafuk0B",
     "8a840Cafuk0B77c40C"],
    .seasonal ⟨"CST", (-21600)⟩ ⟨"CDT", (-18000)⟩ ⟨3, 2, 0, 7200⟩ ⟨11, 1, 0, 7200⟩⟩,
  ⟨"America/Mazatlan", [⟨"LMT", (-25540)⟩, ⟨"MST", (-25200)⟩, ⟨"CST", (-21600)⟩, ⟨"MDT", (-21600)⟩],
    ["153nr74B2u5s00C1si580B8jhg0D7x3w0B9eys0C591h80Bs5qoc0Dafuk0B8a840Dafuk0B8a840Dafuk0B8a840D",
     "ast80B7x9g0Dast80B9q2s0D7k580B9q2s0Dafuk0B8a840Dafuk0B8a840Dast80B7x9g0Dast80B7x9g0Dast80B",
     "7x9g0Dast80B8a840Dafuk0B8a840Dafuk0B8a840Dast80B7x9g0Dast80B7x9g0Dast80B8a840Dafuk0B8a840D",
     "afuk0B8a840Dafuk0B8a840Dast80B7x9g0Dast80B7x9g0Dast80B8a840Dafuk0B8a840Dafuk0B8a840Dast80B",
     "7x9g0Dast80B"],
    .steady ⟨"MST", (-25200)⟩⟩,
  ⟨"America/Menominee", [⟨"LMT", (-21027)⟩, ⟨"CDT", (-18000)⟩, ⟨"CST", (-21600)⟩, ⟨"CWT", (-18000)⟩,
      ⟨"CPT", (-18000)⟩, ⟨"EST", (-18000)⟩],
    ["m5xzz7Cgz53bxBast80C7x9g0Bast80Cbmtus0D1tz8c0E2dsw0Casys0B7x3w0Ca7n9g0B9px80C1at9g0F2396k0B",
     "9d1c0C3lpg0Bf4d80C64g40Bclmk0C9d440B9px80C905g0B9px80C9d440B9cyk0C9d440B9cyk0C9d440B9cyk0C",
     "9d440B9cyk0C9d440B9px80C905g0B9px80C9d440B9cyk0C9d440B9cyk0C9d440B9cyk0C8a840Bafuk0C8a840B",
     "ast80C7x9g0Bast80C7x9g0Bast80C8a840Bafuk0C8a840Bafuk0C8a840Bast80C7x9g0Bast80C7x9g0Bast80C",
     "8a840Bafuk0C8a840Bafuk0C8a840Bafuk0C8a840Bast80C7x9g0Bast80C7x9g0Bast80C8a840Bafuk0C8a840B",
     "afuk0C8a840Bast80C7x9g0Bast80C7x9g0Bast80C6udg0B"],
    .seasonal ⟨"CST", (-21600)⟩ ⟨"CDT", (-18000)⟩ ⟨3, 2, 0, 7200⟩ ⟨11, 1, 0, 7200⟩⟩,
  ⟨"America/Merida", [⟨"LMT", (-21508)⟩, ⟨"CST", (-21600)⟩, ⟨"EST", (-18000)⟩, ⟨"CDT", (-18000)⟩],
    ["153nof4Bvb0dk0Cfzuk0B70bes0Dafuk0B8a840Dafuk0B8a840Dafuk0B8a840Dast80B7x9g0Dast80B9q2s0D",
     "7k580B9q2s0Dafuk0B8a840Dafuk0B8a840Dast80B7x9g0Dast80B7x9g0Dast80B7x9g0Dast80B8a840Dafuk0B",
     "8a840Dafuk0B8a840Dast80B7x9g0Dast80B7x9g0Dast80B8a840Dafuk0B8a840Dafuk0B8a840Dafuk0B8a840D",
     "ast80B7x9g0Dast80B7x9g0Dast80B8a840Dafuk0B8a840Dafuk0B8a840Dast80B7x9g0Dast80B"],
    .steady ⟨"CST", (-21600)⟩⟩,
  ⟨"America/Metlakatla", [⟨"LMT", 54822⟩, ⟨"LMT", (-31578)⟩, ⟨"PST", (-28800)⟩, ⟨"PWT", (-25200)⟩,
      ⟨"PPT", (-25200)⟩, ⟨"PDT", (-25200)⟩, ⟨"AKST", (-32400)⟩, ⟨"AKDT", (-28800)⟩],
    ["cta575Bh4ytl5Cln70quD1tz2s0E2dyg0Ccawis0F9cyk0C9d440F9cyk0C9d440F9px80C9d440F9cyk0C9d440F",
     "9cyk0C3lpg0Ff4d80C64g40Fclmk0C9d440F9px80C905g0F9px80C9d440F9cyk0C9d440F9cyk0C9d440F9cyk0C",
     "9d440F9cyk0C9d440F9px80C905g0F9px80Cgpc840G6udg0Hc8nw0G6hes0Hc8nw0G6hes0Hc8nw0C3ylc0G2itg0H"],
    .seasonal ⟨"AKST", (-32400)⟩ ⟨"AKDT", (-28800)⟩ ⟨3, 2, 0, 7200⟩ ⟨11, 1, 0, 7200⟩⟩,
  ⟨"America/Mexico_City", [⟨"LMT", (-23796)⟩, ⟨"MST", (-25200)⟩, ⟨"CST", (-21600)⟩,
      ⟨"MDT", (-21600)⟩, ⟨"CDT", (-18000)⟩, ⟨"CWT", (-18000)⟩],
    ["153nr74B2u5s00C1si580B8jhg0D7x3w0B9eys0C3knek0E776k0Crf440E5t6k0C1evk40F71mk0C30p1g0E8n180C",
     "nufxo0Eafuk0C8a840Eafuk0C8a840Eafuk0C8a840East80C7x9g0East80C9q2s0E7k580C9q2s0Eafuk0C8a840E",
     "afuk0C8a840East80C7x9g0East80C7x9g0East80C7x9g0East80C8a840Eafuk0C8a840Eafuk0C8a840East80C",
     "7x9g0East80C7x9g0East80C8a840Eafuk0C8a840Eafuk0C8a840Eafuk0C8a840East80C7x9g0East80C7x9g0E",
     "ast80C8a840Eafuk0C8a840Eafuk0C8a840East80C7x9g0East80C"],
    .steady ⟨"CST", (-21600)⟩⟩,
  ⟨"America/Miquelon", [⟨"LMT", (-13480)⟩, ⟨"AST", (-14400)⟩, ⟨"-03", (-10800)⟩, ⟨"-02", (-7200)⟩],
    ["zlgbhkBzy4wpkC3m59g0Dafuk0C8a840Dast80C7x9g0Dast80C7x9g0Dast80C8a840Dafuk0C8a840Dafuk0C",
     "8a840Dast80C7x9g0Dast80C7x9g0Dast80C8a840Dafuk0C8a840Dafuk0C8a840Dafuk0C8a840Dast80C7x9g0D",
     "ast80C7x9g0Dast80C8a840Dafuk0C8a840Dafuk0C8a840Dast80C7x9g0Dast80C7x9g0Dast80C6udg0D"],
    .seasonal ⟨"-03", (-10800)⟩ ⟨"-02", (-7200)⟩ ⟨3, 2, 0, 7200⟩ ⟨11, 1, 0, 7200⟩⟩,
  ⟨"America/Moncton", [⟨"LMT", (-15548)⟩, ⟨"EST", (-18000)⟩, ⟨"ADT", (-10800)⟩, ⟨"AST", (-14400)⟩,
      ⟨"AWT", (-10800)⟩, ⟨"APT", (-10800)⟩],
    ["l8j3r0B9nu9w4D89fhg0Ca2vw0D7mqqo0C4ofw0De1ms0C4ofw0De1ms0C4ofw0De1ms0C4ofw0De1ms0C4ofw0D",
     "e1ms0C4ofw0Ddmtg0C64ak0Dcao40C6fek0Dbkqs0C7iak0D6y5k0E1tzdw0F2dnc0Dasys0C7x3w0Dasys0C7x3w0D",
     "asys0C7x3w0Dasys0C7x3w0Db5xg0C7k580Db5xg0C7x3w0Dasys0C7x3w0Dasys0C7x3w0Dasys0C7x3w0Dasys0C",
     "7x3w0Db5xg0C7x3w0Dasys0C9cyk0D9d440C9cyk0D9d440C9cyk0D9d440C9px80D9d440C9cyk0D9d440C9cyk0D",
     "9d440C9cyk0D9d440C9cyk0D9d440C9px80D905g0C9px80D9d440C9cyk0D9d440C9cyk0D9d440C9cyk0D9d440C",
     "9cyk0D9d440C9px80D9d440C9cyk0Ds36s0C9cyk0D9d440C9cyk0D9d440C9px80D905g0C9px80D9d440C9cyk0D",
     "9d440C9cyk0D9d440C9cyk0D9d440C9cyk0D9d440C9px80D905g0C9px80D9d440C9cyk0D9d440C9cyk0D9d440C",
     "9cyk0D8a840Cafuk0D8a840Cast80D7x9g0Cast80D7x9g0Cast80D8a840Cafuk0D8a840Cafuk0D8a2loCast80D",
     "7x9g0Cast80D7x9g0Cast80D8a840Cafuk0D8a840Cafuk0D8a840Cafuk0D8a840Cast80D7x9g0Cast80D7x9g0C",
     "ast80D8a840Cafuk0D8a840Cafuk0D8a840Cast80D7x9g0Cast80D7x9g0Cast80D6uiycC"],
    .seasonal ⟨"AST", (-14400)⟩ ⟨"ADT", (-10800)⟩ ⟨3, 2, 0, 7200⟩ ⟨11, 1, 0, 7200⟩⟩,
  ⟨"America/Monterrey", [⟨"LMT", (-24076)⟩, ⟨"MST", (-25200)⟩, ⟨"CST", (-21600)⟩, ⟨"MDT", (-21600)⟩,
      ⟨"CDT", (-18000)⟩],
    ["153nof4B2u5us0C1si580B8jhg0D7x3w0B9eys0Ct89k40East80C3vppg0Eafuk0C8a840Eafuk0C8a840Eafuk0C",
     "8a840East80C7x9g0East80C9q2s0E7k580C9q2s0Eafuk0C8a840Eafuk0C8a840East80C7x9g0East80C7x9g0E",
     "ast80C7x9g0East80C8a840Eafuk0C8a840Eafuk0C8a840East80C7x9g0East80C7x9g0East80C8a840Eafuk0C",
     "8a840Eafuk0C8a840Eafuk0C8a840East80C7x9g0East80C7x9g0East80C8a840Eafuk0C8a840Eafuk0C8a840E",
     "ast80C7x9g0East80C"],
    .steady ⟨"CST", (-21600)⟩⟩,
  ⟨"America/Montevideo", [⟨"LMT", (-13491)⟩, ⟨"MMT", (-13491)⟩, ⟨"-04", (-14400)⟩,
      ⟨"-0330", (-12600)⟩, ⟨"-03", (-10800)⟩, ⟨"-0230", (-9000)⟩, ⟨"-02", (-7200)⟩,
      ⟨"-0130", (-5400)⟩],
    ["y0va5vB67elc0C1s74p9E9et80D9exe0E9czy0D9exe0E9czy0D3ydyq0E7x5a0Dasxe0E7x5a0Dasxe0E7x5a0D",
     "asxe0E7x5a0Db5w20E7k6m0Db5w20E7k6m0D9q1e0E9czy0Dasxe0E7x5a0D6do20Eppvy0F4mmm0E8g9qq0F901a0E",
     "38pe0G2inw0E2nf9g0G8zzw0E1e3s40F9o3y0Eq8he0G2kik0Eyxhg0G4bh80Es36s0H2vl60F905g0E5rg20G",
     "51ek0Eweqs0G3yik0Ee1ms0G4ofw0Eerk40G3yik0E2vs40Ggk7w0E41iys0G3wnw0Eerk40G4bh80Ec8tg0G64ak0E",
     "c8tg0G6u7w0Ec8tg0G6h980Ebvus0G6u7w0E614qs0G9q2s0Ea31g0G7x3w0Eag040G8a2k0Easys0G7x3w0Easys0G",
     "7x3w0Easys0G8a2k0Eag040G8a2k0Eag040G8a2k0Easys0G7x3w0Easys0G7x3w0Easys0G7x3w0E"],
    .steady ⟨"-03", (-10800)⟩⟩,
  ⟨"America/New_York", [⟨"LMT", (-17762)⟩, ⟨"EDT", (-14400)⟩, ⟨"EST", (-18000)⟩, ⟨"EWT", (-14400)⟩,
      ⟨"EPT", (-14400)⟩],
    ["l7h6z4Chxltk0Bast80C7x9g0Bast80C7x9g0Bb5rw0C905g0B7x3w0Cb5xg0B7k580Cb5xg0B7x3w0Casys0B",
     "7x3w0Casys0B7x3w0Casys0B7x3w0Casys0B7x3w0Cb5xg0B7x3w0Casys0B7x3w0Casys0B7x3w0Casys0B7x3w0C",
     "asys0B7x3w0Cb5xg0B7k580Cb5xg0B7x3w0Casys0B7x3w0Casys0B7x3w0Casys0B7x3w0Casys0B7x3w0Cb5xg0B",
     "7k580Cb5xg0B7x3w0Casys0B7x3w0C6w840D1tzb40E2dq40Casys0B7x3w0Casys0B7x3w0Casys0B7x3w0Casys0B",
     "7x3w0Cb5xg0B7k580Cb5xg0B7x3w0Casys0B7x3w0Casys0B7x3w0Casys0B7x3w0Casys0B9px80C9d440B9cyk0C",
     "9d440B9cyk0C9d440B9cyk0C9d440B9cyk0C9d440B9px80C9d440B9cyk0C9d440B9cyk0C9d440B9cyk0C9d440B",
     "9cyk0C9d440B9px80C905g0B9px80C9d440B9cyk0C9d440B9cyk0C9d440B9cyk0C9d440B9cyk0C9d440B9px80C",
     "9d440B9cyk0C9d440B9cyk0C3lpg0Bf4d80C64g40Bclmk0C9d440B9px80C905g0B9px80C9d440B9cyk0C9d440B",
     "9cyk0C9d440B9cyk0C9d440B9cyk0C9d440B9px80C905g0B9px80C9d440B9cyk0C9d440B9cyk0C9d440B9cyk0C",
     "8a840Bafuk0C8a840Bast80C7x9g0Bast80C7x9g0Bast80C8a840Bafuk0C8a840Bafuk0C8a840Bast80C7x9g0B",
     "ast80C7x9g0Bast80C8a840Bafuk0C8a840Bafuk0C8a840Bafuk0C8a840Bast80C7x9g0Bast80C7x9g0Bast80C",
     "8a840Bafuk0C8a840Bafuk0C8a840Bast80C7x9g0Bast80C7x9g0Bast80C6udg0B"],
    .seasonal ⟨"EST", (-18000)⟩ ⟨"EDT", (-14400)⟩ ⟨3, 2, 0, 7200⟩ ⟨11, 1, 0, 7200⟩⟩,
  ⟨"America/Nome", [⟨"LMT", 46702⟩, ⟨"LMT", (-39698)⟩, ⟨"NST", (-39600)⟩, ⟨"NWT", (-36000)⟩,
      ⟨"NPT", (-36000)⟩, ⟨"BST", (-39600)⟩, ⟨"BDT", (-36000)⟩, ⟨"YST", (-32400)⟩,
      ⟨"AKDT", (-28800)⟩, ⟨"AKST", (-32400)⟩],
    ["cta575Bh4yzupCln72taD1tyug0E2e6s0Cb7yik0F12y080G9cyk0F9d440G9cyk0F9d440G9px80F9d440G9cyk0F",
     "9d440G9cyk0F3lpg0Gf4d80F64g40Gclmk0F9d440G9px80F905g0G9px80F9d440G9cyk0F9d440G9cyk0F9d440G",
     "9cyk0F9d440G9cyk0F9d440G9px80F905g0G9px80H1l6c0J7rs80I9cyk0J9d440I9cyk0J9d440I9cyk0J8a840I",
     "afuk0J8a840Iast80J7x9g0Iast80J7x9g0Iast80J8a840Iafuk0J8a840Iafuk0J8a840Iast80J7x9g0Iast80J",
     "7x9g0Iast80J8a840Iafuk0J8a840Iafuk0J8a840Iafuk0J8a840Iast80J7x9g0Iast80J7x9g0Iast80J8a840I",
     "afuk0J8a840Iafuk0J8a840Iast80J7x9g0Iast80J7x9g0Iast80J6udg0I"],
    .seasonal ⟨"AKST", (-32400)⟩ ⟨"AKDT", (-28800)⟩ ⟨3, 2, 0, 7200⟩ ⟨11, 1, 0, 7200⟩⟩,
  ⟨"America/Noronha", [⟨"LMT", (-7780)⟩, ⟨"-01", (-3600)⟩, ⟨"-02", (-7200)⟩],
    ["10xc9r8C99k8rwB9a9c0C9io40B99980C8p65g0B6zuo0Cbs2o0B67zw0Ccjxg0B69uk0Ccjxg0B4ml80C5mf440B",
     "49mk0Chaas0B316k0Ccls40B4ml80Ccls40B66580Ccls40B67zw0C981s40B6u7w0Cbiw40B5rbw0Cd0lg0B5ed80C",
     "cyqs0B5ed80Cdbpg0B64ak0C514g40B7k580Cbiw40Bcvw0Ciq5g0B6h980C"],
    .steady ⟨"-02", (-7200)⟩⟩,
  ⟨"America/North_Dakota/Beulah", [⟨"LMT", (-24427)⟩, ⟨"MDT", (-21600)⟩, ⟨"MST", (-25200)⟩,
      ⟨"MWT", (-21600)⟩, ⟨"MPT", (-21600)⟩, ⟨"CST", (-21600)⟩],
    ["l7hcj4Chxltk0Bast80C7x9g0Bast80Cbmtus0D1tz5k0E2dvo0Cb9gdg0B9cyk0C9d440B9cyk0C9d440B9cyk0C",
     "9d440B9cyk0C9d440B9px80C9d440B9cyk0C9d440B9cyk0C3lpg0Bf4d80C64g40Bclmk0C9d440B9px80C905g0B",
     "9px80C9d440B9cyk0C9d440B9cyk0C9d440B9cyk0C9d440B9cyk0C9d440B9px80C905g0B9px80C9d440B9cyk0C",
     "9d440B9cyk0C9d440B9cyk0C8a840Bafuk0C8a840Bast80C7x9g0Bast80C7x9g0Bast80C8a840Bafuk0C8a840B",
     "afuk0C8a840Bast80C7x9g0Bast80C7x9g0Bast80C8a840Bafuk0C8a840Bafuk0C8a840Bafuk0C8a840Bast80C",
     "7x9g0Bast80C7x9g0Bast80C8a840Bafuk0C8a840Bafuk0C8a840Bast80C7x9g0Bast80C7x9g0Bast80C6udg0B",
     "c8nw0C6hes0Bc8nw0C6hes0Bc8nw0C6udg0Bc8nw0F"],
    .seasonal ⟨"CST", (-21600)⟩ ⟨"CDT", (-18000)⟩ ⟨3, 2, 0, 7200⟩ ⟨11, 1, 0, 7200⟩⟩,
  ⟨"America/North_Dakota/Center", [⟨"LMT", (-24312)⟩, ⟨"MDT", (-21600)⟩, ⟨"MST", (-25200)⟩,
      ⟨"MWT", (-21600)⟩, ⟨"MPT", (-21600)⟩, ⟨"CDT", (-18000)⟩, ⟨"CST", (-21600)⟩],
    ["l7hcj4Chxltk0Bast80C7x9g0Bast80Cbmtus0D1tz5k0E2dvo0Cb9gdg0B9cyk0C9d440B9cyk0C9d440B9cyk0C",
     "9d440B9cyk0C9d440B9px80C9d440B9cyk0C9d440B9cyk0C3lpg0Bf4d80C64g40Bclmk0C9d440B9px80C905g0B",
     "9px80C9d440B9cyk0C9d440B9cyk0C9d440B9cyk0C9d440B9cyk0C9d440B9px80C905g0B9px80C9d440B9cyk0C",
     "9d440B9cyk0C9d440B9cyk0C8a840Bafuk0C8a840Bast80C7x9g0Bast80C7x9g0Bast80C8a840Bafuk0C8a840B",
     "afuk0G8a5c0Fast80G7x9g0Fast80G7x9g0Fast80G8a840Fafuk0G8a840Fafuk0G8a840Fafuk0G8a840Fast80G",
     "7x9g0Fast80G7x9g0Fast80G8a840Fafuk0G8a840Fafuk0G8a840Fast80G7x9g0Fast80G7x9g0Fast80G6udg0F"],
    .seasonal ⟨"CST", (-21600)⟩ ⟨"CDT", (-18000)⟩ ⟨3, 2, 0, 7200⟩ ⟨11, 1, 0, 7200⟩⟩,
  ⟨"America/North_Dakota/New_Salem", [⟨"LMT", (-24339)⟩, ⟨"MDT", (-21600)⟩, ⟨"MST", (-25200)⟩,
      ⟨"MWT", (-21600)⟩, ⟨"MPT", (-21600)⟩, ⟨"CDT", (-18000)⟩, ⟨"CST", (-21600)⟩],
    ["l7hcj4Chxltk0Bast80C7x9g0Bast80Cbmtus0D1tz5k0E2dvo0Cb9gdg0B9cyk0C9d440B9cyk0C9d440B9cyk0C",
     "9d440B9cyk0C9d440B9px80C9d440B9cyk0C9d440B9cyk0C3lpg0Bf4d80C64g40Bclmk0C9d440B9px80C905g0B",
     "9px80C9d440B9cyk0C9d440B9cyk0C9d440B9cyk0C9d440B9cyk0C9d440B9px80C905g0B9px80C9d440B9cyk0C",
     "9d440B9cyk0C9d440B9cyk0C8a840Bafuk0C8a840Bast80C7x9g0Bast80C7x9g0Bast80C8a840Bafuk0C8a840B",
     "afuk0C8a840Bast80C7x9g0Bast80C7x9g0Bast80C8a840Bafuk0C8a840Bafuk0C8a840Bafuk0C8a840Bast80C",
     "7x9g0Bast80C7x9g0Bast80C8a840Bafuk0C8a840Bafuk0G8a5c0Fast80G7x9g0Fast80G7x9g0Fast80G6udg0F"],
    .seasonal ⟨"CST", (-21600)⟩ ⟨"CDT", (-18000)⟩ ⟨3, 2, 0, 7200⟩ ⟨11, 1, 0, 7200⟩⟩,
  ⟨"America/Nuuk", [⟨"LMT", (-12416)⟩, ⟨"-03", (-10800)⟩, ⟨"-02", (-7200)⟩],
    ["129n9c0Bx8nqz4C8zrk0B9d1c0C9d1c0B9d1c0C9d1c0B9d1c0C9d1c0B9d1c0C9q000B9d1c0C9d1c0B9d1c0C",
     "9d1c0B9d1c0C9d1c0B9d1c0C9d1c0B9d1c0C9d1c0B9d1c0C9q000B9d1c0C9d1c0B9d1c0C9d1c0B9d1c0C9d1c0B",
     "9d1c0C9d1c0B9d1c0C9d1c0B9q000Casw00B7x6o0Casw00B7x6o0Casw00B7x6o0Cb5uo0B7k800Cb5uo0B7k800C",
     "b5uo0B7x6o0Casw00B7x6o0Casw00B7x6o0Cb5uo0B7k800Cb5uo0B7k800Cb5uo0B7k800Cb5uo0B7x6o0Casw00B",
     "7x6o0Casw00B7x6o0Cb5uo0B7k800Cb5uo0B7k800Cb5uo0B7x6o0Casw00B7x6o0Casw00B7x6o0Casw00B7x6o0C",
     "b5uo0B7k800Cb5uo0B7k800Cb5uo0B7x6o0Casw00B7x6o0Casw00B7x6o0Cb5uo0B7k800Cb5uo0B7k800Cb5uo0C"],
    .seasonal ⟨"-02", (-7200)⟩ ⟨"-01", (-3600)⟩ ⟨3, 5, 0, (-3600)⟩ ⟨10, 5, 0, 0⟩⟩,
  ⟨"America/Ojinaga", [⟨"LMT", (-25060)⟩, ⟨"MST", (-25200)⟩, ⟨"CST", (-21600)⟩, ⟨"MDT", (-21600)⟩,
      ⟨"CDT", (-18000)⟩],
    ["153nr74B2u5s00C1si580B8jhg0D7x3w0B9eys0Cxes2s0Eafuk0C8a840Eafuk0C8aaw0Dafuk0B8a840Dast80B",
     "7x9g0Dast80B9q2s0D7k580B9q2s0Dafuk0B8a840Dafuk0B8a840Dast80B7x9g0Dast80B7x9g0Dast80B7x9g0D",
     "ast80B8a840Dafuk0B8a840Dafuk0B77c40Dc8nw0B6hes0Dc8nw0B6hes0Dc8nw0B6hes0Dc8nw0B6hes0Dc8nw0B",
     "6hes0Dc8nw0B6udg0Dc8nw0B6hes0Dc8nw0B6hes0Dc8nw0B6hes0Dc8nw0B6hes0Dc8nw0B6udg0Dc8nw0B6hes0D",
     "bvp80C"],
    .seasonal ⟨"CST", (-21600)⟩ ⟨"CDT", (-18000)⟩ ⟨3, 2, 0, 7200⟩ ⟨11, 1, 0, 7200⟩⟩,
  ⟨"America/Panama", [⟨"LMT", (-19088)⟩, ⟨"CMT", (-19176)⟩, ⟨"EST", (-18000)⟩],
    ["oeh15cB9jvmqgC"],
    .steady ⟨"EST", (-18000)⟩⟩,
  ⟨"America/Paramaribo", [⟨"LMT", (-13240)⟩, ⟨"PMT", (-13252)⟩, ⟨"PMT", (-13236)⟩,
      ⟨"-0330", (-12600)⟩, ⟨"-03", (-10800)⟩],
    ["zcyrawBcixc0cC5lydbkDkcrm6cE"],
    .steady ⟨"-03", (-10800)⟩⟩,
  ⟨"America/Phoenix", [⟨"LMT", (-26898)⟩, ⟨"MDT", (-21600)⟩, ⟨"MST", (-25200)⟩, ⟨"MWT", (-21600)⟩],
    ["l7hcj4Chxltk0Bast80C7x9g0Bast80Cbmtus0DzjedoC4olg0D9et80Cbs6lmcB9cyk0C"],
    .steady ⟨"MST", (-25200)⟩⟩,
  ⟨"America/Port-au-Prince", [⟨"LMT", (-17360)⟩, ⟨"PPMT", (-17340)⟩, ⟨"EDT", (-14400)⟩,
      ⟨"EST", (-18000)⟩],
    ["oegztcBe4gmngDylcf6cC8zzw0D9d440C9cyk0D9d440C9cyk0D9d440C9cyk0D9d440C9cyk0D8aaw0Casw00D",
     "7x6o0Casw00D7x6o0Casw00D8a5c0Cafxc0D8a5c0Cafxc0D8a5c0Casw00D7x6o0Casw00D7x6o0Casw00D8a5c0C",
     "afxc0D8a5c0Cafxc0D3vpjw0Cast80D7x9g0Cast80D2stv00Cc8nw0D6hes0Cc8nw0D6hes0Cc8nw0D6hes0C",
     "c8nw0Dpkg40C"],
    .seasonal ⟨"EST", (-18000)⟩ ⟨"EDT", (-14400)⟩ ⟨3, 2, 0, 7200⟩ ⟨11, 1, 0, 7200⟩⟩,
  ⟨"America/Porto_Velho", [⟨"LMT", (-15336)⟩, ⟨"-03", (-10800)⟩, ⟨"-04", (-14400)⟩],
    ["10xcfl4C99k8i0B9a9c0C9io40B99980C8p65g0B6zuo0Cbs2o0B67zw0Ccjxg0B69uk0Ccjxg0B4ml80C5mf440B",
     "49mk0Chaas0B316k0Ccls40B4ml80Ccls40B66580Ccls40B67zw0C981s40B6u7w0Cbiw40B5rbw0Cd0lg0B5ed80C"],
    .steady ⟨"-04", (-14400)⟩⟩,
  ⟨"America/Puerto_Rico", [⟨"LMT", (-15865)⟩, ⟨"AST", (-14400)⟩, ⟨"APT", (-10800)⟩,
      ⟨"AWT", (-10800)⟩],
    ["t806ntBmhp1jbD1ppu40C2dnc0B"],
    .steady ⟨"AST", (-14400)⟩⟩,
  ⟨"America/Punta_Arenas", [⟨"LMT", (-17020)⟩, ⟨"SMT", (-16965)⟩, ⟨"-05", (-18000)⟩,
      ⟨"-04", (-14400)⟩, ⟨"-03", (-10800)⟩],
    ["oegzjwBag6lahC3dlssrB157b79Df4e0rB49hzb9Daye0rC7ves0Dawik0C7ves0Dawik0C7ves0Dawik0C7ves0D",
     "ayd80C7ves0D534ik0C351g0D24lbw0Db25c0C2mg00Db73400E7k580Dc8tg0E6h980Da31g0E7x3w0Dasys0E",
     "7x3w0Db5xg0E7k580Dag040E8a2k0Db5xg0E7k580Db5xg0E7x3w0Dasys0E7x3w0Dasys0E7x3w0Db5xg0E7k580D",
     "b5xg0E7k580Db5xg0E7x3w0Dasys0E7x3w0Dasys0E7x3w0Dasys0E7x3w0Db5xg0E7k580Db5xg0E7k580Db5xg0E",
     "9cyk0D9d440E7x3w0Dasys0E7x3w0Db5xg0E7k580D9q2s0E8zzw0Db5xg0E7x3w0Dasys0E7x3w0Dasys0E7x3w0D",
     "asys0E7x3w0Db5xg0E7k580Db5xg0E8n180Da31g0E7x3w0Da31g0E9px80D9q2s0E7x3w0Db5xg0E7k580Db5xg0E",
     "7k580Db5xg0E7k580Db5xg0E7x3w0Dasys0E7x3w0Dasys0E7x3w0Db5xg0E7k580Db5xg0E8n180Da31g0E7x3w0D",
     "asys0E8zzw0D9q2s0East80D5eis0Ecyl80D6hes0Ec8nw0D6udg0Ebvp80D6udg0Evonw0D4olg0E5rbw0E"],
    .steady ⟨"-03", (-10800)⟩⟩,
  ⟨"America/Rankin_Inlet", [⟨"-00", 0⟩, ⟨"CDT", (-18000)⟩, ⟨"CST", (-21600)⟩, ⟨"EST", (-18000)⟩],
    ["1nd9af4C7zza80B9cyk0C9d440B9cyk0C9d440B9cyk0C9d440B9cyk0C9d440B9px80C905g0B9px80C9d440B",
     "9cyk0C9d440B9cyk0C9d440B9cyk0C9d440B9cyk0C9d440B9px80C905g0B9px80C9d440B9cyk0C9d440B9cyk0C",
     "9d440B9cyk0C8a840Bafuk0C8a840Bast80C7x9g0Bast80C7x9g0Bast80C8a840Bafuk0C8a840Bafuk0C8a840B",
     "ast80C7x9g0Bast80C7x9g0Bast80C8a840Bafuk0C8a840Bafuk0C8a840Bafuk0C8a840Bast80C7x9g0Bast80D",
     "7x9g0Bast80C8a840Bafuk0C8a840Bafuk0C8a840Bast80C7x9g0Bast80C7x9g0Bast80C6udg0B"],
    .seasonal ⟨"CST", (-21600)⟩ ⟨"CDT", (-18000)⟩ ⟨3, 2, 0, 7200⟩ ⟨11, 1, 0, 7200⟩⟩,
  ⟨"America/Recife", [⟨"LMT", (-8376)⟩, ⟨"-02", (-7200)⟩, ⟨"-03", (-10800)⟩],
    ["10xca7sC99kb3cB9a9c0C9io40B99980C8p65g0B6zuo0Cbs2o0B67zw0Ccjxg0B69uk0Ccjxg0B4ml80C5mf440B",
     "49mk0Chaas0B316k0Ccls40B4ml80Ccls40B66580Ccls40B67zw0C981s40B6u7w0Cbiw40B5rbw0Cd0lg0B5ed80C",
     "cyqs0B5ed80Cdbpg0B64ak0C514g40B7k580Cbiw40Bcvw0Ciq5g0B6h980C"],
    .steady ⟨"-03", (-10800)⟩⟩,
  ⟨"America/Regina", [⟨"LMT", (-25116)⟩, ⟨"MDT", (-21600)⟩, ⟨"MST", (-25200)⟩, ⟨"MWT", (-21600)⟩,
      ⟨"MPT", (-21600)⟩, ⟨"CST", (-21600)⟩],
    ["wkrlssC6l1hmcBa2vw0C60enw0B7x3w0Casys0B7x3w0Casys0B7x3w0Cb5xg0B7k580Cb5xg0B7x3w0C1b6840B",
     "9cyk0C9d440B8zzw0C9q2s0B9cyk0C9q2s0B9cyk0C9d440B9cyk0C66gc0D1tz5k0E2dvo0Ca31g0B9cyk0Ca31g0B",
     "7x3w0Casys0B7x3w0Casys0B7x3w0Cb5xg0B7k580Cb5xg0B7x3w0Casys0B7x3w0Casys0B7x3w0Casys0B7x3w0C",
     "asys0B7x3w0Cb5xg0B7x3w0Casys0B7x3w0Ctj1g0B9cyk0C9d440F"],
    .steady ⟨"CST", (-21600)⟩⟩,
  ⟨"America/Resolute", [⟨"-00", 0⟩, ⟨"CDT", (-18000)⟩, ⟨"CST", (-21600)⟩, ⟨"EST", (-18000)⟩],
    ["1ihsmf4Ccvfy80B9cyk0C9d440B9cyk0C9d440B9cyk0C9d440B9cyk0C9d440B9px80C905g0B9px80C9d440B",
     "9cyk0C9d440B9cyk0C9d440B9cyk0C9d440B9cyk0C9d440B9px80C905g0B9px80C9d440B9cyk0C9d440B9cyk0C",
     "9d440B9cyk0C8a840Bafuk0C8a840Bast80C7x9g0Bast80C7x9g0Bast80C8a840Bafuk0C8a840Bafuk0C8a840B",
     "ast80C7x9g0Bast80C7x9g0Bast80C8a840Bafuk0C8a840Bafuk0C8a840Bafuk0C8a840Bast80C7x9g0Bast80D",
     "7x9g0Bast80C8a840Bafuk0C8a840Bafuk0C8a840Bast80C7x9g0Bast80C7x9g0Bast80D6udg0B"],
    .seasonal ⟨"CST", (-21600)⟩ ⟨"CDT", (-18000)⟩ ⟨3, 2, 0, 7200⟩ ⟨11, 1, 0, 7200⟩⟩,
  ⟨"America/Rio_Branco", [⟨"LMT", (-16272)⟩, ⟨"-04", (-14400)⟩, ⟨"-05", (-18000)⟩],
    ["10xcgb4C99kak0B9a9c0C9io40B99980C8p65g0B6zuo0Cbs2o0B67zw0Ccjxg0B69uk0Ccjxg0B4ml80C5mf440B",
     "49mk0Chaas0B316k0Ccls40B4ml80Ccls40B66580Ccls40B67zw0C981s40B6u7w0Cbiw40B5rbw0Cd0lg0B5ed80C",
     "amves0B2t2t80C"],
    .steady ⟨"-05", (-18000)⟩⟩,
  ⟨"America/Santarem", [⟨"LMT", (-13128)⟩, ⟨"-03", (-10800)⟩, ⟨"-04", (-14400)⟩],
    ["10xcdvsC99ka7cB9a9c0C9io40B99980C8p65g0B6zuo0Cbs2o0B67zw0Ccjxg0B69uk0Ccjxg0B4ml80C5mf440B",
     "49mk0Chaas0B316k0Ccls40B4ml80Ccls40B66580Ccls40B67zw0C981s40B6u7w0Cbiw40B5rbw0Cd0lg0B5ed80C",
     "amves0B"],
    .steady ⟨"-03", (-10800)⟩⟩,
  ⟨"America/Santiago", [⟨"LMT", (-16965)⟩, ⟨"SMT", (-16965)⟩, ⟨"-05", (-18000)⟩, ⟨"-04", (-14400)⟩,
      ⟨"-03", (-10800)⟩],
    ["oegzidBag6lc0C3dlssrB157b79Df4e0rB49hzb9Daye0rC7ves0Dawik0C7ves0Dawik0C7ves0Dawik0C7ves0D",
     "ayd80C7ves0D534ik0C351g0D229zw0E2b980Db2840C2mg00Db73400E7k580Dc8tg0E6h980Da31g0E7x3w0D",
     "asys0E7x3w0Db5xg0E7k580Dag040E8a2k0Db5xg0E7k580Db5xg0E7x3w0Dasys0E7x3w0Dasys0E7x3w0Db5xg0E",
     "7k580Db5xg0E7k580Db5xg0E7x3w0Dasys0E7x3w0Dasys0E7x3w0Dasys0E7x3w0Db5xg0E7k580Db5xg0E7k580D",
     "b5xg0E9cyk0D9d440E7x3w0Dasys0E7x3w0Db5xg0E7k580D9q2s0E8zzw0Db5xg0E7x3w0Dasys0E7x3w0Dasys0E",
     "7x3w0Dasys0E7x3w0Db5xg0E7k580Db5xg0E8n180Da31g0E7x3w0Da31g0E9px80D9q2s0E7x3w0Db5xg0E7k580D",
     "b5xg0E7k580Db5xg0E7k580Db5xg0E7x3w0Dasys0E7x3w0Dasys0E7x3w0Db5xg0E7k580Db5xg0E8n180Da31g0E",
     "7x3w0Dasys0E8zzw0D9q2s0East80D5eis0Ecyl80D6hes0Ec8nw0D6udg0Ebvp80D6udg0Evonw0D4olg0Ee1h80D",
     "4olg0Ee1h80D4olg0Ec8nw0D7x9g0East80D7x9g0East80D7x9g0East80D8a840Eafuk0D"],
    .seasonal ⟨"-04", (-14400)⟩ ⟨"-03", (-10800)⟩ ⟨9, 1, 6, 86400⟩ ⟨4, 1, 6, 86400⟩⟩,
  ⟨"America/Santo_Domingo", [⟨"LMT", (-16776)⟩, ⟨"SDMT", (-16800)⟩, ⟨"EDT", (-14400)⟩,
      ⟨"EST", (-18000)⟩, ⟨"-0430", (-16200)⟩, ⟨"AST", (-14400)⟩],
    ["oegzd4BmkixcoDhiw29cC67zw0D1dy840E62ha0Dcnle0E4h2m0Delyq0E47ta0Dei9e0E4bim0Deek20E4dda0D",
     "ecpe0Fdkmtg0D1stc0F"],
    .steady ⟨"AST", (-14400)⟩⟩,
  ⟨"America/Sao_Paulo", [⟨"LMT", (-11188)⟩, ⟨"-02", (-7200)⟩, ⟨"-03", (-10800)⟩],
    ["10xccdwC99k8x8B9a9c0C9io40B99980C8p65g0B6zuo0Cbs2o0B67zw0Ccjxg0B69uk0Ccjxg0B4ml80C5k02s0B",
     "6onw0Chaas0B316k0Ccls40B4ml80Ccls40B66580Ccls40B67zw0C981s40B6u7w0Cbiw40B5rbw0Cd0lg0B5ed80C",
     "cyqs0B5ed80Cdbpg0B64ak0Ccyqs0B64ak0Ccls40B5rbw0Cdbpg0B51ek0Cdbpg0B6h980Cc8tg0B6h980Cc8tg0B",
     "64ak0Cc8tg0B6u7w0Cbxpg0B7iak0Cbiw40B6u7w0Cbiw40B7k580Cbiw40B6u7w0Cc8tg0B6h980Cdbpg0B5ed80C",
     "cls40B64ak0Cdfes0B5nmk0Cc8tg0B6h980Cdbpg0B5rbw0Cbvus0B6h980Ccls40B64ak0Ccls40B6h980Cc8tg0B",
     "6h980Cc8tg0B6u7w0Cc8tg0B64ak0Ccls40B64ak0Ccls40B6h980Cc8tg0B6h980Cc8tg0B6h980Cc8tg0B6h980C",
     "dbpg0B5ed80C"],
    .steady ⟨"-03", (-10800)⟩⟩,
  ⟨"America/Scoresbysund", [⟨"LMT", (-5272)⟩, ⟨"-02", (-7200)⟩, ⟨"-01", (-3600)⟩, ⟨"+00", 0⟩],
    ["129n3tkBx8ntpkC902o0B9cvs0D9cyk0C9d1c0D9d1c0C9d1c0D9d1c0C9d1c0D9q000C9d1c0D9d1c0C9d1c0D",
     "9d1c0C9d1c0D9d1c0C9d1c0D9d1c0C9d1c0D9d1c0C9d1c0D9q000C9d1c0D9d1c0C9d1c0D9d1c0C9d1c0D9d1c0C",
     "9d1c0D9d1c0C9d1c0D9d1c0C9q000Dasw00C7x6o0Dasw00C7x6o0Dasw00C7x6o0Db5uo0C7k800Db5uo0C7k800D",
     "b5uo0C7x6o0Dasw00C7x6o0Dasw00C7x6o0Db5uo0C7k800Db5uo0C7k800Db5uo0C7k800Db5uo0C7x6o0Dasw00C",
     "7x6o0Dasw00C7x6o0Db5uo0C7k800Db5uo0C7k800Db5uo0C7x6o0Dasw00C7x6o0Dasw00C7x6o0Dasw00C7x6o0D",
     "b5uo0C7k800Db5uo0C7k800Db5uo0C7x6o0Dasw00C7x6o0Dasw00C7x6o0Db5uo0C7k800Db5uo0C7k800Db5uo0C",
     "7x6o0C"],
    .seasonal ⟨"-02", (-7200)⟩ ⟨"-01", (-3600)⟩ ⟨3, 5, 0, (-3600)⟩ ⟨10, 5, 0, 0⟩⟩,
  ⟨"America/Sitka", [⟨"LMT", 53927⟩, ⟨"LMT", (-32473)⟩, ⟨"PST", (-28800)⟩, ⟨"PWT", (-25200)⟩,
      ⟨"PPT", (-25200)⟩, ⟨"PDT", (-25200)⟩, ⟨"YST", (-32400)⟩, ⟨"AKDT", (-28800)⟩,
      ⟨"AKST", (-32400)⟩],
    ["cta575Bh4yua0Cln701zD1tz2s0E2dyg0Ccawis0F9cyk0C9d440F9cyk0C9d440F9px80C9d440F9cyk0C9d440F",
     "9cyk0C3lpg0Ff4d80C64g40Fclmk0C9d440F9px80C905g0F9px80C9d440F9cyk0C9d440F9cyk0C9d440F9cyk0C",
     "9d440F9cyk0C9d440F9px80C905g0F9px80G1leo0I7rs80H9cyk0I9d440H9cyk0I9d440H9cyk0I8a840Hafuk0I",
     "8a840Hast80I7x9g0Hast80I7x9g0Hast80I8a840Hafuk0I8a840Hafuk0I8a840Hast80I7x9g0Hast80I7x9g0H",
     "ast80I8a840Hafuk0I8a840Hafuk0I8a840Hafuk0I8a840Hast80I7x9g0Hast80I7x9g0Hast80I8a840Hafuk0I",
     "8a840Hafuk0I8a840Hast80I7x9g0Hast80I7x9g0Hast80I6udg0H"],
    .seasonal ⟨"AKST", (-32400)⟩ ⟨"AKDT", (-28800)⟩ ⟨3, 2, 0, 7200⟩ ⟨11, 1, 0, 7200⟩⟩,
  ⟨"America/St_Johns", [⟨"LMT", (-12652)⟩, ⟨"NDT", (-9052)⟩, ⟨"NST", (-12652)⟩, ⟨"NDT", (-9000)⟩,
      ⟨"NST", (-12600)⟩, ⟨"NPT", (-9000)⟩, ⟨"NWT", (-9000)⟩, ⟨"NDDT", (-5400)⟩],
    ["l9pmukChd05k0B8bx80Car440Ba2vw0C9tjs0B53980Cdkys0B9cyk0C9d440B9cyk0C9q2s0B8zzw0C9q2s0B",
     "8zzw0C9q2s0B8zzw0C9q2s0B8zzw0C9q2s0B9cyk0C9d440B9cyk0C9q2s0B8zzw0C9q2s0B8zzw0C9q2s0B8zzw0C",
     "9q2s0B8zzw0C9q2s0B9cyk0C9q2s0B8zzw0C9q2s0B8zzw0C7tmw0E1wfukD8zzw0Ea3480D7k580Eb5xg0D7k580E",
     "b5xg0D7k580Ebiw40D776k0Ebiw40D7k580Eb5xg0D7k580Eb5xg0G1pb260F2dly0Ebiw40D7k580Eb5xg0D7k580E",
     "b5xg0D7k580Eb5xg0D7k580Ebiw40D7k580Eag040D7x3w0Easys0D7x3w0Easys0D7x3w0Easys0D7x3w0Easys0D",
     "7x3w0Eb5xg0D7x3w0Easys0D7x3w0Easys0D7x3w0Easys0D7x3w0Easys0D9px80E9d440D9cyk0E9d440D9cyk0E",
     "9d440D9cyk0E9d440D9cyk0E9d440D9px80E905g0D9px80E9d440D9cyk0E9d440D9cyk0E9d440D9cyk0E9d440D",
     "9cyk0E9d440D9px80E9d440D9cyk0E9d440D9cyk0E9d440D9cyk0E9d440D9cyk0E9d440D9px80E905g0D9px80E",
     "9d440D9cyk0E9d440D9cyk0E9d440D9cyk0E9d440D9cyk0E9d440D9px80E905g0D9px80E9d440D9cyk0E9d440D",
     "9cyk0E9d440D9cyk0E8a2loDafuk0E8a840Hasqg0E7xc80Dast80E7x9g0Dast80E8a840Dafuk0E8a840Dafuk0E",
     "8a840Dast80E7x9g0Dast80E7x9g0Dast80E8a840Dafuk0E8a840Dafuk0E8a840Dafuk0E8a840Dast80E7x9g0D",
     "ast80E7x9g0Dast80E8a840Dafuk0E8a840Dafuk0E8a840Dast80E7x9g0Dast80E7x9g0Dast80E6udg0Dc8nw0E",
     "6hes0Dc8nw0E6hes0Dc8nw0E6udg0Dc8nw0E6hes0Dc8tecE"],
    .seasonal ⟨"NST", (-12600)⟩ ⟨"NDT", (-9000)⟩ ⟨3, 2, 0, 7200⟩ ⟨11, 1, 0, 7200⟩⟩,
  ⟨"America/Swift_Current", [⟨"LMT", (-25880)⟩, ⟨"MDT", (-21600)⟩, ⟨"MST", (-25200)⟩,
      ⟨"MWT", (-21600)⟩, ⟨"MPT", (-21600)⟩, ⟨"CST", (-21600)⟩],
    ["wkrme0C6l1h14Ba2vw0Cc5jxg0D1tz5k0E2dvo0Casys0B8n180Ca31g0B7x3w0Casys0B7x3w0Casys0B7x3w0C",
     "3yles0B9cyk0Cs36s0B9cyk0C9d440B7x3w0Cb5xg0B7k580C5j4lg0F"],
    .steady ⟨"CST", (-21600)⟩⟩,
  ⟨"America/Tegucigalpa", [⟨"LMT", (-20932)⟩, ⟨"CDT", (-18000)⟩, ⟨"CST", (-21600)⟩],
    ["14piekkCyho0ikB7k580Cb5xg0B7k580C96x1g0B4qak0C"],
    .steady ⟨"CST", (-21600)⟩⟩,
  ⟨"America/Thule", [⟨"LMT", (-16508)⟩, ⟨"ADT", (-10800)⟩, ⟨"AST", (-14400)⟩],
    ["129nchoC12yzilgB9cyk0C9d440B9cyk0C9q2s0Bast80C7x9g0Bast80C7x9g0Bast80C8a840Bafuk0C8a840B",
     "afuk0C8a840Bafuk0C8a840Bast80C7x9g0Bast80C7x9g0Bast80C8a840Bafuk0C8a840Bafuk0C8a840Bast80C",
     "7x9g0Bast80C7x9g0Bast80C6udg0B"],
    .seasonal ⟨"AST", (-14400)⟩ ⟨"ADT", (-10800)⟩ ⟨3, 2, 0, 7200⟩ ⟨11, 1, 0, 7200⟩⟩,
  ⟨"America/Tijuana", [⟨"LMT", (-28084)⟩, ⟨"MST", (-25200)⟩, ⟨"PST", (-28800)⟩, ⟨"PDT", (-25200)⟩,
      ⟨"PWT", (-25200)⟩, ⟨"PPT", (-25200)⟩],
    ["153nr74B11juo0C1sm040B1si580C71s40D9cyk0C5iidg0E1q6700F4qzk0C18uw40Deluk0Coa5g0D7iak0C",
     "b6300D7x3w0Casys0D7x3w0Casw00D7x6o0Casw00D7x6o0Casw00D7x6o0Cb5uo0D7x6o0Casw00D7x6o0Casw00D",
     "7x6o0Casw00D7x6o0Casw00D7x6o0Cb5uo0D7k800Cb5uo0D9d1c0C9d1c0D9d1c0C9d1c0D9d1c0C9d1c0D9q000C",
     "902o0D9q000C9d440D9cyk0C9d440D9cyk0C9d440D9cyk0C9d440D9cyk0C9d440D9px80C9d440D9cyk0C9d440D",
     "9cyk0C3lpg0Df4d80C64g40Dclmk0C9d440D9px80C905g0D9px80C9d440D9cyk0C9d440D9cyk0C9d440D9cyk0C",
     "9d440D9cyk0C9d440D9px80C905g0D9px80C9d440D9cyk0C9d440D9cyk0C9d440D9cyk0C8a840Dafuk0C8a840D",
     "ast80C7x9g0Dast80C7x9g0Dast80C8a840Dafuk0C8a840Dafuk0C8a840Dast80C7x9g0Dast80C7x9g0Dast80C",
     "8a840Dafuk0C8a840Dafuk0C8a840Dafuk0C8a840Dast80C7x9g0Dast80C7x9g0Dast80C8a840Dafuk0C8a840D",
     "afuk0C8a840Dast80C7x9g0Dast80C7x9g0Dast80C7x9g0Dast80C8a840Dafuk0C8a840Dafuk0C77c40D"],
    .seasonal ⟨"PST", (-28800)⟩ ⟨"PDT", (-25200)⟩ ⟨3, 2, 0, 7200⟩ ⟨11, 1, 0, 7200⟩⟩,
  ⟨"America/Toronto", [⟨"LMT", (-19052)⟩, ⟨"EDT", (-14400)⟩, ⟨"EST", (-18000)⟩, ⟨"EWT", (-14400)⟩,
      ⟨"EPT", (-14400)⟩],
    ["r0eigcCc5efesBa2vw0C7yx60Baqzy0C9q8c0B7jzo0Cbw0c0B6bp80Ccedg0B6h980Cc8tg0B6h980Cbvus0B",
     "776k0Cbiw40B776k0Cbiw40B776k0Cbiw40B7k580Cb5xg0B7x3w0Casys0B7x3w0Casys0B7x3w0Casys0B7x3w0C",
     "b5xg0B7k580Cb5xg0B7x3w0Casys0B7x3w0Casys0B7x3w0Casys0B7x3w0Casys0B7x3w0Casys0B7x3w0Cb5xg0B",
     "7k580Cb5xg0Bxjeo0D1tzb40E2dq40Casys0B7x3w0Casys0B7x3w0Casys0B7x3w0Casys0Bb5rw0C7x9g0Bast80C",
     "7x9g0B7x3w0Casys0B7x3w0Casys0B7x3w0Casys0B7x3w0Casys0B7x3w0Cb5xg0B7x3w0Casys0B9cyk0C9d440B",
     "9cyk0C9d440B9cyk0C9d440B9px80C9d440B9cyk0C9d440B9cyk0C9d440B9cyk0C9d440B9cyk0C9d440B9px80C",
     "905g0B9px80C9d440B9cyk0C9d440B9cyk0C9d440B9cyk0C9d440B9cyk0C9d440B9px80C9d440B9cyk0C9d440B",
     "9cyk0C9d440B9cyk0C9d440B9cyk0C9d440B9px80C905g0B9px80C9d440B9cyk0C9d440B9cyk0C9d440B9cyk0C",
     "9d440B9cyk0C9d440B9px80C905g0B9px80C9d440B9cyk0C9d440B9cyk0C9d440B9cyk0C8a840Bafuk0C8a840B",
     "ast80C7x9g0Bast80C7x9g0Bast80C8a840Bafuk0C8a840Bafuk0C8a840Bast80C7x9g0Bast80C7x9g0Bast80C",
     "8a840Bafuk0C8a840Bafuk0C8a840Bafuk0C8a840Bast80C7x9g0Bast80C7x9g0Bast80C8a840Bafuk0C8a840B",
     "afuk0C8a840Bast80C7x9g0Bast80C7x9g0Bast80C6udg0B"],
    .seasonal ⟨"EST", (-18000)⟩ ⟨"EDT", (-14400)⟩ ⟨3, 2, 0, 7200⟩ ⟨11, 1, 0, 7200⟩⟩,
  ⟨"America/Vancouver", [⟨"LMT", (-29548)⟩, ⟨"PDT", (-25200)⟩, ⟨"PST", (-28800)⟩, ⟨"PWT", (-25200)⟩,
      ⟨"PPT", (-25200)⟩],
    ["l9pzvwChw36b8Ba2vw0Cc5jxg0D1tz2s0E2dyg0Casys0B7x3w0Casys0B7x3w0Casys0B7x3w0Casys0B7x3w0C",
     "b5xg0B7k580Cb5xg0B7x3w0Casys0B7x3w0Casys0B7x3w0Casys0B7x3w0Casys0B7x3w0Cb5xg0B7x3w0Casys0B",
     "7x3w0Casys0B7x3w0Casys0B7x3w0Casys0B7x3w0Cb5xg0B7k580Cb5xg0B9cyk0C9d440B9cyk0C9d440B9cyk0C",
     "9d440B9px80C905g0B9px80C9d440B9cyk0C9d440B9cyk0C9d440B9cyk0C9d440B9cyk0C9d440B9px80C9d440B",
     "9cyk0C9d440B9cyk0C9d440B9cyk0C9d440B9cyk0C9d440B9px80C905g0B9px80C9d440B9cyk0C9d440B9cyk0C",
     "9d440B9cyk0C9d440B9cyk0C9d440B9px80C905g0B9px80C9d440B9cyk0C9d440B9cyk0C9d440B9cyk0C8a840B",
     "afuk0C8a840Bast80C7x9g0Bast80C7x9g0Bast80C8a840Bafuk0C8a840Bafuk0C8a840Bast80C7x9g0Bast80C",
     "7x9g0Bast80C8a840Bafuk0C8a840Bafuk0C8a840Bafuk0C8a840Bast80C7x9g0Bast80C7x9g0Bast80C8a840B",
     "afuk0C8a840Bafuk0C8a840Bast80C7x9g0Bast80C7x9g0Bast80C6udg0B"],
    .seasonal ⟨"PST", (-28800)⟩ ⟨"PDT", (-25200)⟩ ⟨3, 2, 0, 7200⟩ ⟨11, 1, 0, 7200⟩⟩,
  ⟨"America/Whitehorse", [⟨"LMT", (-32412)⟩, ⟨"YDT", (-28800)⟩, ⟨"YST", (-32400)⟩,
      ⟨"YWT", (-28800)⟩, ⟨"YPT", (-28800)⟩, ⟨"YDDT", (-25200)⟩, ⟨"PST", (-28800)⟩,
      ⟨"PDT", (-25200)⟩, ⟨"MST", (-25200)⟩],
    ["ty823gC97l6voBa2vw0Casys0B882c0Cbmiwc0D1tz000E2e180Ca7n3w0F9q000C64dc0G7e3pg0H9cyk0G9d440H",
     "9cyk0G9d440H9px80G905g0H9px80G9d440H9cyk0G9d440H9cyk0G9d440H9cyk0G8a840Hafuk0G8a840Hast80G",
     "7x9g0Hast80G7x9g0Hast80G8a840Hafuk0G8a840Hafuk0G8a840Hast80G7x9g0Hast80G7x9g0Hast80G8a840H",
     "afuk0G8a840Hafuk0G8a840Hafuk0G8a840Hast80G7x9g0Hast80G7x9g0Hast80G8a840Hafuk0G8a840Hafuk0G",
     "8a840Hast80G7x9g0Hast80G7x9g0Hast80G6udg0Hc8nw0G6hes0Hc8nw0G6hes0Hc8nw0G6udg0Hc8nw0G6hes0H",
     "c8nw0G6hes0Hc8nw0G6hes0Hc8nw0G6hes0Hc8nw0G6hes0Hc8nw0G6udg0Hc8nw0G6hes0Hc8nw0G6hes0Hc8nw0G",
     "6hes0Hc8nw0G6hes0Hc8ic0I"],
    .steady ⟨"MST", (-25200)⟩⟩,
  ⟨"America/Winnipeg", [⟨"LMT", (-23316)⟩, ⟨"CDT", (-18000)⟩, ⟨"CST", (-21600)⟩, ⟨"CWT", (-18000)⟩,
      ⟨"CPT", (-18000)⟩],
    ["n46gesCf0j80cB7k580Ctj700Ba2vw0C9ok840B6u7w0C2a5hg0D1tz8c0E2dsw0Cbiw40B7x3w0Ca31g0B7x3w0C",
     "asys0B7x3w0Casys0B7x3w0Cb7s40B7tek0Cautg0B7x3w0Casys0B7x3w0Casys0B7x3w0Casys0B7x3w0Casys0B",
     "7x3w0Cb5xg0B7x3w0Casys0B7x3w0Casys0B7x3w0Casys0B9cyk0C9d440B7x3w0C1cm2s0B7k580C1cm2s0B",
     "9q000C9d1c0B9d1c0C9d1c0B9d1c0C9d1c0B9d1c0C9d1c0B9d1c0C9d1c0B9q000C9d1c0B9d1c0C9d1c0B9d1c0C",
     "9d1c0B9d1c0C9d1c0B9d1c0C9d1c0B9q000C902o0B9q000C9d1c0B9d1c0C9d1c0B9d1c0C9d1c0B9d1c0C9d1c0B",
     "9d1c0C9d1c0B9q000C902o0B9q000C9d1c0B9d1c0C9d1c0B9d1c0C9d1c0B9d1c0C8a5c0Bafxc0C8a5c0Basw00C",
     "7x6o0Basw00C7x6o0Basw00C8a5c0Bafxc0C8a5c0Bafxc0C8a5c0Basw00C7x6o0Basw00C7x6o0Basw00C8a5c0B",
     "afxc0C8a5c0Bafxc0C8a5c0Bafxc0C8a5c0Basw00C7x6o0Basw00C7x6o0Basw00C8a5c0Bafxc0C8a5c0Bafxc0C",
     "8a5c0Basw00C7x6o0Basw00C7x6o0Bast80C6udg0B"],
    .seasonal ⟨"CST", (-21600)⟩ ⟨"CDT", (-18000)⟩ ⟨3, 2, 0, 7200⟩ ⟨11, 1, 0, 7200⟩⟩,
  ⟨"America/Yakutat", [⟨"LMT", 52865⟩, ⟨"LMT", (-33535)⟩, ⟨"YST", (-32400)⟩, ⟨"YWT", (-28800)⟩,
      ⟨"YPT", (-28800)⟩, ⟨"YDT", (-28800)⟩, ⟨"AKDT", (-28800)⟩, ⟨"AKST", (-32400)⟩],
    ["cta575Bh4yv3iCln720hD1tz000E2e180Ccawis0F9cyk0C9d440F9cyk0C9d440F9px80C9d440F9cyk0C9d440F",
     "9cyk0C3lpg0Ff4d80C64g40Fclmk0C9d440F9px80C905g0F9px80C9d440F9cyk0C9d440F9cyk0C9d440F9cyk0C",
     "9d440F9cyk0C9d440F9px80C905g0F9px80C1lbw0H7rs80G9cyk0H9d440G9cyk0H9d440G9cyk0H8a840Gafuk0H",
     "8a840Gast80H7x9g0Gast80H7x9g0Gast80H8a840Gafuk0H8a840Gafuk0H8a840Gast80H7x9g0Gast80H7x9g0G",
     "ast80H8a840Gafuk0H8a840Gafuk0H8a840Gafuk0H8a840Gast80H7x9g0Gast80H7x9g0Gast80H8a840Gafuk0H",
     "8a840Gafuk0H8a840Gast80H7x9g0Gast80H7x9g0Gast80H6udg0G"],
    .seasonal ⟨"AKST", (-32400)⟩ ⟨"AKDT", (-28800)⟩ ⟨3, 2, 0, 7200⟩ ⟨11, 1, 0, 7200⟩⟩]

end Worksheet.Zones
