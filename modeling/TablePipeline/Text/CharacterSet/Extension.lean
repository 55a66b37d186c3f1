import TablePipeline.Text.CharacterSet.Basic

/-!
Characters that widespread encodings have besides those of the standards, or in the place of some of
them.
-/
namespace TablePipeline.Text.CharacterSet

/-- Additions to JIS X 0208: numbers in circles, units, rarer ideographs, and other signs in a few
places. What stands in several places is written in the earliest row. -/
def japaneseExtension : CharacterSet := .ofRuns [
  (118, 0, "髜魵魲鮏鮱鮻鰀鵰鵫\ufa2d鸙黑"),
  (117, 0, "\ufa20\ufa21蠇裵訒訷詹誧誾諟\ufa22諶譓譿賰賴贒赶\ufa23軏\ufa24\ufa25遧郞\ufa26鄕鄧釚釗釞釭釮釤釥鈆鈐鈊鈺鉀鈼鉎鉙鉑鈹鉧銧" ++
    "鉷鉸鋧鋗鋙鋐\ufa27鋕鋠鋓錥錡鋻\ufa28錞鋿錝錂鍰鍗鎤鏆鏞鏸鐱鑅鑈閒\uf9dc\ufa29隝隯霳霻靃靍靏靑靕顗顥\ufa2a\ufa2b餧\ufa2c馞" ++
    "驎髙"),
  (116, 0, "涖涬淏淸淲淼渹湜渧渼溿澈澵濵瀅瀇瀨炅炫焏焄煜煆煇\ufa15燁燾犱犾猤\ufa16獷玽珉珖珣珒琇珵琦琪琩琮瑢璉璟甁畯皂皜皞皛皦\ufa17睆劯砡硎硤硺礰" ++
    "\ufa18\ufa19\ufa1a禔\ufa1b禛竑竧\ufa1c竫箞\ufa1d絈絜綷綠緖繒罇羡\ufa1e茁荢荿菇菶葈蒴蕓蕙蕫\ufa1f薰"),
  (115, 0, "夋奓奛奝奣妤妺孖寀甯寘寬尞岦岺峵崧嵓\ufa11嵂嵭嶸嶹巐弡弴彧德忞恝悅悊惞惕愠惲愑愷愰憘戓抦揵摠撝擎敎昀昕昻昉昮昞昤晥晗晙\ufa12晳暙暠暲暿曺朎\uf929" ++
    "杦枻桒柀栁桄棏\ufa13楨\ufa14榘槢樰橫橆橳橾櫢櫤毖氿汜沆汯泚洄涇浯"),
  (114, 0, "ⅰⅱⅲⅳⅴⅵⅶⅷⅸⅹⅠⅡⅢⅣⅤⅥⅦⅧⅨⅩ￢￤＇＂㈱№℡∵纊褜鍈銈蓜俉炻昱棈鋹曻彅丨仡仼伀伃伹佖侒侊侚侔俍偀倢俿倞偆偰偂傔僴僘兊兤冝冾凬刕劜劦勀勛匀匇匤卲厓厲叝" ++
    "\ufa0e咜咊咩哿喆坙坥垬埈埇\ufa0f\ufa10增墲"),
  (91, 0, "釗釞釭釮釤釥鈆鈐鈊鈺鉀鈼鉎鉙鉑鈹鉧銧鉷鉸鋧鋗鋙鋐\ufa27鋕鋠鋓錥錡鋻\ufa28錞鋿錝錂鍰鍗鎤鏆鏞鏸鐱鑅鑈閒\uf9dc\ufa29隝隯霳霻靃靍靏靑靕顗顥" ++
    "\ufa2a\ufa2b餧\ufa2c馞驎髙髜魵魲鮏鮱鮻鰀鵰鵫\ufa2d鸙黑��ⅰⅱⅲⅳⅴⅵⅶⅷⅸⅹ￢￤＇＂"),
  (90, 0, "犾猤\ufa16獷玽珉珖珣珒琇珵琦琪琩琮瑢璉璟甁畯皂皜皞皛皦\ufa17睆劯砡硎硤硺礰\ufa18\ufa19\ufa1a禔\ufa1b禛竑竧\ufa1c竫箞" ++
    "\ufa1d絈絜綷綠緖繒罇羡\ufa1e茁荢荿菇菶葈蒴蕓蕙蕫\ufa1f薰\ufa20\ufa21蠇裵訒訷詹誧誾諟\ufa22諶譓譿賰賴贒赶\ufa23軏" ++
    "\ufa24\ufa25遧郞\ufa26鄕鄧釚"),
  (89, 0, "忞恝悅悊惞惕愠惲愑愷愰憘戓抦揵摠撝擎敎昀昕昻昉昮昞昤晥晗晙\ufa12晳暙暠暲暿曺朎\uf929杦枻桒柀栁桄棏\ufa13楨\ufa14榘槢樰橫橆橳橾櫢櫤毖氿汜沆汯" ++
    "泚洄涇浯涖涬淏淸淲淼渹湜渧渼溿澈澵濵瀅瀇瀨炅炫焏焄煜煆煇\ufa15燁燾犱"),
  (88, 0, "纊褜鍈銈蓜俉炻昱棈鋹曻彅丨仡仼伀伃伹佖侒侊侚侔俍偀倢俿倞偆偰偂傔僴僘兊兤冝冾凬刕劜劦勀勛匀匇匤卲厓厲叝\ufa0e咜咊咩哿喆坙坥垬埈埇\ufa0f\ufa10增墲夋" ++
    "奓奛奝奣妤妺孖寀甯寘寬尞岦岺峵崧嵓\ufa11嵂嵭嶸嶹巐弡弴彧德"),
  (12, 0, "①②③④⑤⑥⑦⑧⑨⑩⑪⑫⑬⑭⑮⑯⑰⑱⑲⑳ⅠⅡⅢⅣⅤⅥⅦⅧⅨⅩ�㍉㌔㌢㍍㌘㌧㌃㌶㍑㍗㌍㌦㌣㌫㍊㌻㎜㎝㎞㎎㎏㏄㎡"),
  (12, 62, "㍻〝〟№㏍℡㊤㊥㊦㊧㊨㈱㈲㈹㍾㍽㍼≒≡∫∮∑√⊥∠∟⊿∵∩∪"),
  (1, 43, "￢"),
  (0, 32, "～∥"),
  (0, 60, "－"),
  (0, 80, "￠￡")]

/-- Additions to JIS X 0208 that everyone may use as they like. -/
def japanesePrivate : CharacterSet :=
  .ofCodes ((List.range 20).map fun row => (94 + row, 0, 0xE000 + 94 * row, 94))

/-- Additions to GB 2312 in rows of 190 cells. -/
def chineseExtension : CharacterSet := .ofRuns [
  (33, 96, "ⅰⅱⅲⅳⅴⅵⅶⅷⅸⅹ"),
  (37, 159, "︵︶︹︺︿﹀︽︾﹁﹂﹃﹄��︻︼︷︸︱�︳︴"),
  (39, 0, "ˊˋ˙–―‥‵℅℉↖↗↘↙∕∟∣≒≦≧⊿═║╒╓╔╕╖╗╘╙╚╛╜╝╞╟╠╡╢╣╤╥╦╧╨╩╪╫╬╭╮╯╰╱╲╳▁▂▃▄▅▆▇█▉▊▋▌▍▎▏▓▔▕▼▽◢◣◤◥☉⊕" ++
    "〒〝〞"),
  (39, 122, "ɑ�ńň�ɡ"),
  (40, 0, "〡〢〣〤〥〦〧〨〩㊣㎎㎏㎜㎝㎞㎡㏄㏎㏑㏒㏕︰￢￤�℡㈱�‐���ー゛゜ヽヾ〆ゝゞ﹉﹊﹋﹌﹍﹎﹏﹐﹑﹒﹔﹕﹖﹗﹙﹚﹛﹜﹝﹞﹟﹠﹡﹢﹣﹤﹥﹦﹨﹩﹪﹫"),
  (40, 85, "〇")]

/-- Ideographs that follow the unified ones of GB 2312 and its additions. -/
def chineseCompatibility : String :=
  "\uf92c\uf979\uf995\uf9e7\uf9f1\ufa0c\ufa0d\ufa0e\ufa0f\ufa11\ufa13\ufa14\ufa18\ufa1f" ++
    "\ufa20\ufa21\ufa23\ufa24\ufa27\ufa28\ufa29"

/-- Later additions to GB 2312 in rows of 190 cells. -/
def chineseLaterExtension : CharacterSet := .ofRuns [
  (33, 162, "€"),
  (39, 126, "ǹ"),
  (40, 72, "〾⿰⿱⿲⿳⿴⿵⿶⿷⿸⿹⿺⿻"),
  (125, 16, "⺁���⺄㑳㑇⺈⺋�㖞㘚㘎⺌⺗㥮㤘�㧏㧟㩳㧐��㭎㱮㳠⺧��⺪䁖䅟⺮䌷⺳⺶⺷�䎱䎬⺻䏝䓖䙡䙌�䜣䜩䝼䞍⻊䥇䥺䥽䦂䦃䦅䦆䦟䦛䦷䦶��䲣䲟䲠䲡䱷䲢䴓䴔䴕䴖䴗䴘䴙䶮")]

/-- Cells of rows of 190 that everyone may use as they like: row, first cell, first code and how
many there are. -/
def chinesePrivate : CharacterSet := .ofCodes [
  (32, 0, 0xE4C6, 96), (33, 0, 0xE526, 96), (33, 106, 0xE766, 6), (33, 163, 0xE76D, 1),
  (33, 174, 0xE76E, 2), (33, 188, 0xE770, 2), (34, 0, 0xE586, 96), (35, 0, 0xE5E6, 96),
  (35, 179, 0xE772, 11), (36, 0, 0xE646, 96), (36, 182, 0xE77D, 8), (37, 0, 0xE6A6, 96),
  (37, 120, 0xE785, 8), (37, 152, 0xE78D, 7), (37, 171, 0xE794, 2), (37, 178, 0xE796, 1),
  (37, 181, 0xE797, 9), (38, 0, 0xE706, 96), (38, 129, 0xE7A0, 15), (38, 177, 0xE7AF, 13),
  (39, 85, 0xE7BC, 11), (39, 123, 0xE7C7, 1), (39, 128, 0xE7C9, 4), (39, 169, 0xE7CD, 21),
  (40, 24, 0xE7E2, 1), (40, 27, 0xE7E3, 1), (40, 29, 0xE7E4, 3), (40, 86, 0xE7F4, 13),
  (40, 175, 0xE801, 15), (41, 96, 0xE000, 94), (42, 96, 0xE05E, 94), (43, 96, 0xE0BC, 94),
  (44, 96, 0xE11A, 94), (45, 96, 0xE178, 94), (46, 96, 0xE1D6, 94), (86, 185, 0xE810, 5),
  (119, 96, 0xE234, 94), (120, 96, 0xE292, 94), (121, 96, 0xE2F0, 94), (122, 96, 0xE34E, 94),
  (123, 96, 0xE3AC, 94), (124, 96, 0xE40A, 94), (125, 17, 0xE816, 3), (125, 25, 0xE81E, 1),
  (125, 33, 0xE826, 1), (125, 38, 0xE82B, 2), (125, 44, 0xE831, 2), (125, 54, 0xE83B, 1),
  (125, 62, 0xE843, 1), (125, 79, 0xE854, 2), (125, 95, 0xE864, 1), (125, 96, 0xE468, 94)]

/-- Additions to Big5, and other signs in a few places of it. -/
def big5Extension : CharacterSet := .ofRuns [
  (0, 5, "‧"),
  (0, 14, "﹑"),
  (0, 96, "¯"),
  (0, 129, "～"),
  (0, 144, "⊕⊙"),
  (1, 1, "∕﹨�￥�￠￡"),
  (2, 127, "€"),
  (88, 116, "碁銹裏墻恒粧嫺╔╦╗╠╬╣╚╩╝╒╤╕╞╪╡╘╧╛╓╥╖╟╫╢╙╨╜║═╭╮╰╯▓")]

/-- The codes below 0x10000 that GB 18030 has no two bytes for, in ranges: the first code of a range
and how many such codes come before it. -/
def fourByteRanges : List (Nat × Nat) := [
  (0x80, 0), (0xA5, 36), (0xA9, 38), (0xB2, 45), (0xB8, 50), (0xD8, 81), (0xE2, 89), (0xEB, 95),
  (0xEE, 96), (0xF4, 100), (0xF8, 103), (0xFB, 104), (0xFD, 105), (0x102, 109), (0x114, 126),
  (0x11C, 133), (0x12C, 148), (0x145, 172), (0x149, 175), (0x14E, 179), (0x16C, 208), (0x1CF, 306),
  (0x1D1, 307), (0x1D3, 308), (0x1D5, 309), (0x1D7, 310), (0x1D9, 311), (0x1DB, 312), (0x1DD, 313),
  (0x1FA, 341), (0x252, 428), (0x262, 443), (0x2C8, 544), (0x2CC, 545), (0x2DA, 558), (0x3A2, 741),
  (0x3AA, 742), (0x3C2, 749), (0x3CA, 750), (0x402, 805), (0x450, 819), (0x452, 820),
  (0x2011, 7922), (0x2017, 7924), (0x201A, 7925), (0x201E, 7927), (0x2027, 7934), (0x2031, 7943),
  (0x2034, 7944), (0x2036, 7945), (0x203C, 7950), (0x20AD, 8062), (0x2104, 8148), (0x2106, 8149),
  (0x210A, 8152), (0x2117, 8164), (0x2122, 8174), (0x216C, 8236), (0x217A, 8240), (0x2194, 8262),
  (0x219A, 8264), (0x2209, 8374), (0x2210, 8380), (0x2212, 8381), (0x2216, 8384), (0x221B, 8388),
  (0x2221, 8390), (0x2224, 8392), (0x2226, 8393), (0x222C, 8394), (0x222F, 8396), (0x2238, 8401),
  (0x223E, 8406), (0x2249, 8416), (0x224D, 8419), (0x2253, 8424), (0x2262, 8437), (0x2268, 8439),
  (0x2270, 8445), (0x2296, 8482), (0x229A, 8485), (0x22A6, 8496), (0x22C0, 8521), (0x2313, 8603),
  (0x246A, 8936), (0x249C, 8946), (0x254C, 9046), (0x2574, 9050), (0x2590, 9063), (0x2596, 9066),
  (0x25A2, 9076), (0x25B4, 9092), (0x25BE, 9100), (0x25C8, 9108), (0x25CC, 9111), (0x25D0, 9113),
  (0x25E6, 9131), (0x2607, 9162), (0x260A, 9164), (0x2641, 9218), (0x2643, 9219), (0x2E82, 11329),
  (0x2E85, 11331), (0x2E89, 11334), (0x2E8D, 11336), (0x2E98, 11346), (0x2EA8, 11361),
  (0x2EAB, 11363), (0x2EAF, 11366), (0x2EB4, 11370), (0x2EB8, 11372), (0x2EBC, 11375),
  (0x2ECB, 11389), (0x2FFC, 11682), (0x3004, 11686), (0x3018, 11687), (0x301F, 11692),
  (0x302A, 11694), (0x303F, 11714), (0x3094, 11716), (0x309F, 11723), (0x30F7, 11725),
  (0x30FF, 11730), (0x312A, 11736), (0x322A, 11982), (0x3232, 11989), (0x32A4, 12102),
  (0x3390, 12336), (0x339F, 12348), (0x33A2, 12350), (0x33C5, 12384), (0x33CF, 12393),
  (0x33D3, 12395), (0x33D6, 12397), (0x3448, 12510), (0x3474, 12553), (0x359F, 12851),
  (0x360F, 12962), (0x361B, 12973), (0x3919, 13738), (0x396F, 13823), (0x39D1, 13919),
  (0x39E0, 13933), (0x3A74, 14080), (0x3B4F, 14298), (0x3C6F, 14585), (0x3CE1, 14698),
  (0x4057, 15583), (0x4160, 15847), (0x4338, 16318), (0x43AD, 16434), (0x43B2, 16438),
  (0x43DE, 16481), (0x44D7, 16729), (0x464D, 17102), (0x4662, 17122), (0x4724, 17315),
  (0x472A, 17320), (0x477D, 17402), (0x478E, 17418), (0x4948, 17859), (0x497B, 17909),
  (0x497E, 17911), (0x4984, 17915), (0x4987, 17916), (0x499C, 17936), (0x49A0, 17939),
  (0x49B8, 17961), (0x4C78, 18664), (0x4CA4, 18703), (0x4D1A, 18814), (0x4DAF, 18962),
  (0x9FA6, 19043), (0xE76C, 33469), (0xE7C8, 33470), (0xE7E7, 33471), (0xE815, 33484),
  (0xE819, 33485), (0xE81F, 33490), (0xE827, 33497), (0xE82D, 33501), (0xE833, 33505),
  (0xE83C, 33513), (0xE844, 33520), (0xE856, 33536), (0xE865, 33550), (0xF92D, 37845),
  (0xF97A, 37921), (0xF996, 37948), (0xF9E8, 38029), (0xF9F2, 38038), (0xFA10, 38064),
  (0xFA12, 38065), (0xFA15, 38066), (0xFA19, 38069), (0xFA22, 38075), (0xFA25, 38076),
  (0xFA2A, 38078), (0xFE32, 39108), (0xFE45, 39109), (0xFE53, 39113), (0xFE58, 39114),
  (0xFE67, 39115), (0xFE6C, 39116), (0xFF5F, 39265), (0xFFE6, 39394)]

end TablePipeline.Text.CharacterSet
