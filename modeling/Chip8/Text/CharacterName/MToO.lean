/-!
# Names of characters from M to O

The names and other names of characters that begin with these letters, written
as the module `Chip8.Text.CharacterName` says.
-/

namespace Chip8.Text.CharacterName

def namesMToO : List String := [
    "aMACRONeGEbIC WANDhNETeHAJANI ABBREVIATION SIGNrLETTER AbBAbHAdCAbHAdDA",
    "bDAbHAdHAdEbGAbHAdHAcIbJAbHAdKAbHAdLAcMAcNAbNAcYAdObPAbHAdRAbRAdSAcTAbHA",
    "cTAbHAeUbVAiIGATURE SHRInSECTION MARKlIGN NUKTAqJONG TILE AUTUMNgBACK",
    "cMBOOgCHRYSANTHEMUMnEAST WINDiIGHT OF BAMBOOShCHARACTERSjIRCLES",
    "qFIVE OF BAMBOOShCHARACTERSjIRCLESoOUR OF BAMBOOShCHARACTERSjIRCLES",
    "pGREEN DRAGONmJOKERfNINE OF BAMBOOShCHARACTERSjIRCLESoORTH WIND",
    "kONE OF BAMBOOShCHARACTERSjIRCLESnRCHIDgPLUMeRED DRAGONkSEVEN OF BAMBOOS",
    "hCHARACTERSjIRCLESpIX OF BAMBOOShCHARACTERSjIRCLESnOUTH WINDjPRINGfUMMER",
    "gTHREE OF BAMBOOShCHARACTERSjIRCLESpWO OF BAMBOOShCHARACTERSjIRCLES",
    "oWEST WINDiHITE DRAGONlINTERrKASAR ANGKAfEND OF SECTIONoLETTER AbBAcCA",
    "cDAcGAcJAcKAcLAcMAcNAbGAcYAdPAcRAcSAcTAcVAcYAjPASSIMBANGkVOWEL SIGN EbI",
    "bObUsLAYALAM AU LENGTH MARKoDATE MARKiIGIT EIGHTfFIVEdOUReNINEeONEdSEVEN",
    "eIXdTHREEeWOdZEROkFRACTION ONE EIGHTHgFIFTHeORTIETHiHALF",
    "eONE-HUNDRED-AND-SIXTIETHyQUARTERhSIXTEENTHjTENTHeWENTIETH",
    "nTHREE EIGHTIETHSkQUARTERSiSIXTEENTHSkTWENTIETHSzaLETTER AaAbIbRCHAIC II",
    "jUcBAbHAdCAbHAbILLU KbLaLaLdMbNaNcRRcYiDAbDAbHAdHAcOT REPHiEaEcGAbHAdHA",
    "cIaIcJAbHAdKAbHAdLAbLAbLAeMAcNAbGAcNAbNAdYAdOaOcPAbHAdRAbRAdSAbHAcSAdTA",
    "bHAcTAbHAcTAeUaUcVAbEDIC ANUSVARAnOCALIC LaLcRaRkYAjNUMBER ONE HUNDRED",
    "hTHOUSANDmTENkSIGN ANUSVARAhVAGRAHAiCANDRABINDUkIRCULAR VIRAMA",
    "oOMBINING ANUSVARA ABOVEyPARAeVERTICAL BAR VIRAMAsIRAMAeSARGA",
    "mVOWEL SIGN AAbIbUcEaEcIaIcOaOcUaUcVOCALIC LaLcRaRzdE AND FEMALE SIGN",
    "pSIGNeWITH STROKE AND MALE AND FEMALE SIGNySIGNsTESE CROSSlMMOTHfN",
    "a AND WOMAN HOLDING HANDSxDANCINGhIN BUSINESS SUIT LEVITATINGyTUXEDO",
    "jWITH GUA PI MAOkTURBANmAT SIGNhDAIC AFFRICATION MARKqGEMINATION MARK",
    "pLETTER ABbDbGbHbINcKaSAdLbMbNbPbQbRbSaHbZcTaTcZcDUSHENNAiHALQAfINbTcKAD",
    "dUSHENNAoPUNCTUATIONlVOCALIZATION MARKwGO",
    "cICHAEAN ABBREVIATION MARK ABOVEfBELOWxLETTER AAYINeLEPHeYINeBETHdHETH",
    "fDALETHfHAMEDHhFEcGHIMELfIMELfHEaTHeJAYINeHAYINgKAPHdHAPHfLAMEDHgMEMdNUN",
    "dPEcQHOPHeOPHeRESHeSADHEdMEKHfHINdSHINfTAWcETHdHAMEDHhWAWdXAPHdOPHeYODH",
    "eZAYINeHAYINnNUMBER FIVEeONEa HUNDREDlTENcWENTYnPUNCTUATION DOT",
    "a WITHIN DOTmUBLE DOT WITHIN DOTvFLEURONhLINE FILLERlSTAReTWO DOTS",
    "uSIGN UDpS SHOEgTELPIECE CLOCKoUAL WHEELCHAIRpP SYMBOL FOR LIGHTHOUSE",
    "wLE LEAFiRCHEN HEAD MARKjLETTER -AcAbBAcCAbHAdDAbZAdGAcHAcJAcKAbHAdLAcMA",
    "cNAbGAcYAdPAbHAdRAcSAbHAdTAbHAcSAbHAeWAcYAcZAbHAkMARK SHADjSIGN ANUSVARA",
    "iCANDRABINDUpUBJOINED LETTER AbBAcCAbHAdDAbZAdGAcHAcJAcKAbHAdLAcMAcNAbGA",
    "cYAdPAbHAdRAcSAbHAdTAbHAcSAbHAeWAcYAcZAbHAuVOWEL SIGN AAcEbIbObU",
    "rRIAGE SYMBOLmTIAL ARTS UNIFORMsSARAM GONDI DIGIT EIGHTfFIVEdOUReNINE",
    "eONEdSEVENeIXdTHREEeWOdZEROkLETTER AaAbIbUcBAbHAdCAbHAdDAbDAbHAdHAdEbGA",
    "bHAdHAcIaIcJAbHAcNYAeKAbHAcSSAeLAbLAdMAcNAbGAcNAcYAdObPAbHAdRAcSAbHAcSA",
    "dTAbHAcRAcTAbHAeUaUcVAcYAjRA-KARAgEPHAfSIGN ANUSVARAiCANDRAgHALANTA",
    "hNUKTAfVISARGAmVIRAMAfOWEL SIGN AAbIbUcEbIaIcObUaUcVOCALIC Rz",
    "gCULINE ORDINAL INDICATORyK WORK SYMBOLnU MARKhTE DRINK",
    "hHEMATICAL BOLD CAPITAL AaLPHAfBaETAeCaHIdDaELTAeIGAMMAhEaPSILONgTAdFbG",
    "aAMMAfHbIaOTAeJbKaAPPAfLaAMDAfMaUcNaUcOaMEGAdICRONhPaHIcIbSIdQbRaHOdS",
    "aIGMAfTaAUcHETAa SYMBOLmUaPSILONhVbWbXaIcYbZaETAmDIGIT EIGHTfFIVEdOUR",
    "eNINEeONEdSEVENeIXdTHREEeWOdZEROkEPSILON SYMBOLoFRAKTUR CAPITAL AbBbCbD",
    "bEbFbGbHbIbJbKbLbMbNbObPbQbRbSbTbUbVbWbXbYbZjSMALL AbBbCbDbEbFbGbHbIbJbK",
    "bLbMbNbObPbQbRbSbTbUbVbWbXbYbZpITALIC CAPITAL AaLPHAfBaETAeCaHIdDaELTAfE",
    "aPSILONgTAdFbGaAMMAfHbIaOTAeJbKaAPPAfLaAMDAfMaUcNaUcOaMEGAdICRONhPaHIcI",
    "bSIdQbRaHOdSaIGMAfTaAUcHETAa SYMBOLmUaPSILONhVbWbXaIcYbZaETA",
    "mEPSILON SYMBOLoKAPPA SYMBOLmNABLAfPARTIAL DIFFERENTIALtHI SYMBOL",
    "jI SYMBOLjRHO SYMBOLkSMALL AaLPHAfBaETAeCaHIdDaELTAfEaPSILONgTAdF",
    "aINAL SIGMAlGaAMMAfHbIaOTAeJbKaAPPAfLaAMDAfMaUcNaUcOaMEGAdICRONhPaHIcI",
    "bSIdQbRaHOdSaIGMAfTaAUcHETAfUaPSILONhVbWbXaIcYbZaETAkTHETA SYMBOL",
    "tKAPPA SYMBOLmNABLAfPARTIAL DIFFERENTIALtHI SYMBOLjI SYMBOLjRHO SYMBOL",
    "kSCRIPT CAPITAL AbBbCbDbEbFbGbHbIbJbKbLbMbNbObPbQbRbSbTbUbVbWbXbYbZ",
    "jSMALL AbBbCbDbEbFbGbHbIbJbKbLbMbNbObPbQbRbSbTbUbVbWbXbYbZnMALL AaLPHAfB",
    "aETAeCaHIdDaELTAeIGAMMAhEaPSILONgTAdFaINAL SIGMAlGaAMMAfHbIaOTAeJbKaAPPA",
    "fLaAMDAfMaUcNaUcOaMEGAdICRONhPaHIcIbSIdQbRaHOdSaIGMAfTaAUcHETAfUaPSILON",
    "hVbWbXaIcYbZaETAkTHETA SYMBOLrDOUBLE-STRUCK CAPITAL AbBbDbEbFbGbIbJbKbL",
    "bMbObSbTbUbVbWbXbYjDIGIT EIGHTfFIVEdOUReNINEeONEdSEVENeIXdTHREEeWOdZERO",
    "kSMALL AbBbCbDbEbFbGbHbIbJbKbLbMbNbObPbQbRbSbTbUbVbWbXbYbZ",
    "vFALLING DIAGONALpRAKTUR CAPITAL AbBbDbEbFbGbJbKbLbMbNbObPbQbSbTbUbVbWbX",
    "bYjSMALL AbBbCbDbEbFbGbHbIbJbKbLbMbNbObPbQbRbSbTbUbVbWbXbYbZ",
    "pITALIC CAPITAL AaLPHAfBaETAeCaHIdDaELTAfEaPSILONgTAdFbGaAMMAfHbIaOTAeJ",
    "bKaAPPAfLaAMDAfMaUcNaUcOaMEGAdICRONhPaHIcIbSIdQbRaHOdSaIGMAfTaAUcHETA",
    "a SYMBOLmUaPSILONhVbWbXaIcYbZaETAmEPSILON SYMBOLoKAPPA SYMBOLmNABLA",
    "fPARTIAL DIFFERENTIALtHI SYMBOLjI SYMBOLjRHO SYMBOLkSMALL AaLPHAfBaETAeC",
    "aHIdDaELTAeOTLESS IbJjEaPSILONgTAdFaINAL SIGMAlGaAMMAfIaOTAeJbKaAPPAfL",
    "aAMDAfMaUcNaUcOaMEGAdICRONhPaHIcIbSIdQbRaHOdSaIGMAfTaAUcHETAfUaPSILONhV",
    "bWbXaIcYbZaETAkTHETA SYMBOLtLEFT ANGLE BRACKETnDOUBLE ANGLE BRACKET",
    "uFLATTENED PARENTHESISvWHITE SQUARE BRACKEToTORTOISE SHELL BRACKETz",
    "iMONOSPACE CAPITAL AbBbCbDbEbFbGbHbIbJbKbLbMbNbObPbQbRbSbTbUbVbWbXbYbZ",
    "jDIGIT EIGHTfFIVEdOUReNINEeONEdSEVENeIXdTHREEeWOdZEROkSMALL AbBbCbDbEbF",
    "bGbHbIbJbKbLbMbNbObPbQbRbSbTbUbVbWbXbYbZrRIGHT ANGLE BRACKET",
    "nDOUBLE ANGLE BRACKETuFLATTENED PARENTHESISvWHITE SQUARE BRACKET",
    "oTORTOISE SHELL BRACKETzhSING DIAGONALpSANS-SERIF BOLD CAPITAL AaLPHAfB",
    "aETAeCaHIdDaELTAfEaPSILONgTAdFbGaAMMAfHbIaOTAeJbKaAPPAfLaAMDAfMaUcNaUcO",
    "aMEGAdICRONhPaHIcIbSIdQbRaHOdSaIGMAfTaAUcHETAa SYMBOLmUaPSILONhVbWbXaIcY",
    "bZaETAmDIGIT EIGHTfFIVEdOUReNINEeONEdSEVENeIXdTHREEeWOdZERO",
    "kEPSILON SYMBOLoITALIC CAPITAL AaLPHAfBaETAeCaHIdDaELTAfEaPSILONgTAdFbG",
    "aAMMAfHbIaOTAeJbKaAPPAfLaAMDAfMaUcNaUcOaMEGAdICRONhPaHIcIbSIdQbRaHOdS",
    "aIGMAfTaAUcHETAa SYMBOLmUaPSILONhVbWbXaIcYbZaETAmEPSILON SYMBOL",
    "oKAPPA SYMBOLmNABLAfPARTIAL DIFFERENTIALtHI SYMBOLjI SYMBOLjRHO SYMBOL",
    "kSMALL AaLPHAfBaETAeCaHIdDaELTAfEaPSILONgTAdFaINAL SIGMAlGaAMMAfHbIaOTA",
    "eJbKaAPPAfLaAMDAfMaUcNaUcOaMEGAdICRONhPaHIcIbSIdQbRaHOdSaIGMAfTaAUcHETA",
    "fUaPSILONhVbWbXaIcYbZaETAkTHETA SYMBOLtKAPPA SYMBOLmNABLA",
    "fPARTIAL DIFFERENTIALtHI SYMBOLjI SYMBOLjRHO SYMBOLkSMALL AaLPHAfBaETAeC",
    "aHIdDaELTAfEaPSILONgTAdFaINAL SIGMAlGaAMMAfHbIaOTAeJbKaAPPAfLaAMDAfMaUcN",
    "aUcOaMEGAdICRONhPaHIcIbSIdQbRaHOdSaIGMAfTaAUcHETAfUaPSILONhVbWbXaIcYbZ",
    "aETAkTHETA SYMBOLrCAPITAL AbBbCbDbEbFbGbHbIbJbKbLbMbNbObPbQbRbSbTbUbVbW",
    "bXbYbZjDIGIT EIGHTfFIVEdOUReNINEeONEdSEVENeIXdTHREEeWOdZERO",
    "kITALIC CAPITAL AbBbCbDbEbFbGbHbIbJbKbLbMbNbObPbQbRbSbTbUbVbWbXbYbZ",
    "jSMALL AbBbCbDbEbFbGbHbIbJbKbLbMbNbObPbQbRbSbTbUbVbWbXbYbZoSMALL AbBbCbD",
    "bEbFbGbHbIbJbKbLbMbNbObPbQbRbSbTbUbVbWbXbYbZrCRIPT CAPITAL AbCbDbGbJbKbN",
    "bObPbQbSbTbUbVbWbXbYbZjSMALL AbBbCbDbFbHbIbJbKbLbMbNbPbQbRbSbTbUbVbWbXbY",
    "bZzaXIMIZEgYAN NUMERAL EIGHTaEENhLEVENgFIFTEENfVEdOURaTEENiNINEaTEENiONE",
    "dSEVENaTEENiIXaTEENhTENcHIRTEENgREEeWELVEeOdZEROrEASURED ANGLE",
    "a OPENING LEFTmWITH OPEN ARM ENDING IN ARROW POINTING DOWN AND LEFT",
    "eRIGHToLEFT AND DOWNeUPlRIGHT AND DOWNeUPmUP AND LEFTeRIGHTzzhBY",
    "cRIGHT ANGLE WITH DOTzbT ON BONEkCHANICAL ARMdLEG",
    "mDEFAIDRIN CAPITAL LETTER AaIbTIUeBbCbDbEbFbGbHaPcIbJbKaPcLbMbNaGbYcOaE",
    "cPbQbRbSbTbUbVbWbXbYaUcZpOMMAfDIGIT EIGHTfFIVEdOUReNINEeONE",
    "a ALTERNATE FORMsSEVENeIXdTHREEa ALTERNATE FORMtWOa ALTERNATE FORMsZERO",
    "kEXCLAMATION OHoFULL STOPjNUMBER EIGHTEENhLEVENgFIFTEENgOURTEENiNINETEEN",
    "iSEVENTEENiIXTEENhTENcHIRTEENhWELVEnSMALL LETTER AaIbTIUeBbCbDbEbFbGbHaP",
    "cIbJbKaPcLbMbNaGbYcOaEcPbQbRbSbTbUbVbWbXbYaUcZnYMBOL AIVAuIEVAL COMMA",
    "fEXCLAMATION MARKqQUESTION MARKsUM BLACK CIRCLElOLD WHITE CIRCLE",
    "rEIGHT POINTED BLACK STARsSPOKED ASTERISKvFIVE SPOKED ASTERISK",
    "tLATTENED LEFT PARENTHESIS ORNAMENTzaRIGHT PARENTHESIS ORNAMENTz",
    "kOUR POINTED BLACK STARkPINWHEEL STARzbGREEK CROSS",
    "lLEFT CURLY BRACKET ORNAMENTwPARENTHESIS ORNAMENT",
    "v-POINTING ANGLE BRACKET ORNAMENTzlMATHEMATICAL SPACE",
    "sRIGHT CURLY BRACKET ORNAMENTwPARENTHESIS ORNAMENT",
    "v-POINTING ANGLE BRACKET ORNAMENTzmSALTIREgHADEeIX POINTED BLACK STAR",
    "sSPOKED ASTERISKsMALL WHITE CIRCLEsTHREE POINTED BLACK STAR",
    "kPINWHEEL STARzcVERTICAL BARmWHITE CIRCLEgSQUARErETEI MAYEK AHANG KHUDAM",
    "lNJIdPUN IYEKjCHEIKHANcEIiDIGIT EIGHTfFIVEdOUReNINEeONEdSEVENeIXdTHREE",
    "eWOdZEROkLETTER ATIYAfBAbHAMeCHAbILeDDAbHAdHOUdILdEbGHOUdOKdHUKdI",
    "a LONSUMiJHAMdILdKHOUdOKa LONSUMkLAIa LONSUMkMITa LONSUMkNAa LONSUMiGOU",
    "a LONSUMkNAcYAdObPAa LONSUMiHAMeRAIdSAMcHAcSAdTHOUdILa LONSUMjTAbHAeUN",
    "cWAIdYANGkUM IYEKiSYLLABLE REPETITION MARKyVIRAMAfOWEL SIGN AAIbUcNAPdU",
    "cCHEINAPhIIbNAPeNUNGeONAPeSOUNAPgUNAPdUcVISARGAhYENAP",
    "qWORD REPETITION MARKzgLONcTING FACEkMO",
    "cNDE KIKAKUI COMBINING NUMBER HUNDRED THOUSANDSkSiMILLIONSiTEENS",
    "dN THOUSANDSkSdHOUSANDSzbDIGIT EIGHTfFIVEdOUReNINEeONEdSEVENeIXdTHREEeWO",
    "jSYLLABLE M001 KIe2 KAe3 KUe4 WIe5 WAe6 WUe7 MINf8 MANf9 MUNg10 BIe1 BA",
    "e2 BUe3 Id4 Ad5 Ud6 DIe7 DAe8 DUe9 SIf20 SAe1 SUe2 TIe3 TAe4 TUe5 LI",
    "e6 LAe7 LUe8 JIe9 JAf30 JUe1 YIe2 YAe3 YUe4 FIe5 FAe6 FUe7 NINf8 NAN",
    "f9 NUNg40 HEEf1 HAe2 HOOf3 NGGAg4 KPEEg5 WOe6 HUANg7 MBEEg8 KOe9 WVA",
    "g50 PUe1 PEe2 HENf3 HINf4 LOOf5 TEe6 GBAf7 NGONg8 NYANg9 MENg60 NYON",
    "g1 WVIf2 MBAf3 JOe4 NDOf5 KEEf6 POe7 NDOOg8 PIe9 TOf70 GBOf1 GBOOg2 MBE",
    "f3 LEe4 KPUf5 FEe6 KOOf7 VOe8 FEEf9 SOf80 YEe1 PEEf2 NGGUg3 HEEIg4 LEE",
    "f5 VEe6 LONG NGGEl7 HUNf8 FOe9 DEEg90 NGGIg1 TEEf2 KPAf3 GBEEg4 MONf5 KE",
    "e6 HEe7 BEe8 NYENg9 PAg100 Ed1 FANf2 POOf3 BOOf4 TOOf5 LONG MBOO",
    "l6 LONG NGGOOm7 GBEf8 KPEf9 YEEg10 LONG LEj1 GAe2 KPOOg3 JEe4 WOO",
    "f5 NGGEEh6 SEe7 NENf8 WEe9 NDEg20 NGGOg1 YOe2 MBUf3 NDIf4 GBIf5 NDU",
    "f6 WEEf7 NGGUAh8 HOOUg9 NDAg30 HANf1 INe2 KPIf3 FOOf4 NJOOg5 INe6 SOO",
    "f7 EIe8 BOe9 WVEg40 HOe1 YOOf2 LONG MBOk3 WEIf4 VOOf5 MBIf6 NGGEg7 O",
    "d8 GBUf9 NJEEh50 BEEf1 VUe2 NJAf3 LOe4 MUANg5 GIe6 NGGOOh7 JEEf8 KPO",
    "f9 NGGAAi60 JOOf1 LONG MBEk2 SEEf3 EEe4 NYINg5 OOe6 GUEIg7 GUANg8 GU",
    "e9 NONg70 NYUNg1 RAe2 MBOOg3 VEEf4 MBOf5 LONG JOj6 HIe7 NGUANh8 ENe9 KUA",
    "g80 DOOf1 DOe2 VIe3 LONG NGGOl4 NGENg5 VAe6 HUe7 MBUUg8 MBEEg9 MUEN",
    "h90 GEEf1 NDEEg2 NJUf3 HONf4 WUIf5 ANe6 SIAf7 FUAz",
    "dORAH WITH NINE BRANCHESxS SYMBOLjRCURY",
    "eOITIC CURSIVE FRACTION EIGHT TWELFTHSnLEVEN TWELFTHSpFIVE TWELFTHS",
    "mOUR TWELFTHSnNINE TWELFTHSnONE HALFeTWELFTHlSEVEN TWELFTHSnIX TWELFTHS",
    "mTEN TWELFTHSlHREE TWELFTHSnWO TWELFTHSvLETTER AaRCHAIC SAkBAcDAcEbHHAdI",
    "bKAbHAdLAcMAcNAbEcObPAcQAcRAcSAbEcTAbEbOcWAcYAiOGOGRAM IMNdRMT",
    "mNUMBER EIGHTa HUNDREDa THOUSANDqTHOUSANDjY THOUSANDpFIFTYa THOUSANDmVE",
    "a HUNDREDa THOUSANDqTHOUSANDmORTYa THOUSANDmURa HUNDREDa THOUSAND",
    "qTHOUSANDnNINEa HUNDREDa THOUSANDqTHOUSANDjTY THOUSANDpONEa HUNDRED",
    "a THOUSANDqTHOUSANDmSEVENa HUNDREDa THOUSANDqTHOUSANDjTYa THOUSANDpIX",
    "a HUNDREDa THOUSANDqTHOUSANDjTYa THOUSANDoTENa THOUSANDlHIRTYa THOUSAND",
    "nREEa HUNDREDa THOUSANDqTHOUSANDnWENTYa THOUSANDnOa HUNDREDa THOUSAND",
    "qTHOUSANDzcHIEROGLYPHIC LETTER AbBAa-2eDAcEbHHAdIbKAbHAdLAcMAcNAa-2dEa-2",
    "eObPAcQAcRAa-2eSAa-2dEcTAa-2dEa-2dOcWAcYAjSYMBOL VIDJa-2zhPERSON",
    "hSSAGE WAITINGnTRICAL BREVEfLONG OVER SHORTfTWO SHORTSuPENTASEME",
    "jSHORT OVER LONGpTETRASEMEiRISEMEgWO SHORTS JOINEDgOVER LONGzaO",
    "eIAO LETTER AHbRCHAIC MAcNAbGAdZZAlBAbRIdDAbDAcLHAbYAeZAbHAcYIcZAeFAcGA",
    "bHAbHAeHAbHAdKAcLAbHAbYAdYAdMAbHAdNAaSALIZATIONlGAbHAdHAcNAbHAdYAbHAePA",
    "bLAdQAbGAdREFORMED TONE-1b2b4b5b6b8fSHAmTEdSAbHAcSAcYIdTAbEbLHAbYAeONE-2",
    "b3b4b5b6b7b8fSAbEbHAcSAdTAdVAbFAdWAcXAcYI DZHAeKAcNNAdPAcTAbSAbHAdTAgZA",
    "bHAcSAbHAdZAbSAbYAdYAlSIGN ASPIRATIONkCONSONANT MODIFIER BAR",
    "wREFORMED ASPIRATIONkVOICINGvTONE ABOVEfBELOWfRIGHTfTOP RIGHT",
    "oVOWEL SIGN AaAbEaEcHHcIbNaGcUcEaAbIbNaGcRaRdIaAaNaGdEbGbIbNGcOaNGdUcNaG",
    "cOaERbYcGbObUcROUNDED ERaRlUaAaNaGdEIcIbNGcOGcUcVWcWaOcYaIbUI",
    "rCR DASH SYMBOLlON US SYMBOLnO SIGNfBEcPHONEfSCOPEiDDLE DOT",
    "dTHIRD WHITE RIGHT POINTING INDEXzlLINE HORIZONTAL ELLIPSISz",
    "aLITARY HELMETgMEDALlKY WAYgL SIGNhNIBUSdDISCeMIZEfUS SIGNa IN TRIANGLE",
    "lWITH COMMA ABOVElDOT BELOWjFALLING DOTSmRISING DOTSvTILDEg-OR-PLUS SIGN",
    "pYcRRORa BALLkMSPdOBILE PHONEa OFFdWITH RIGHTWARDS ARROW AT LEFTzpDELS",
    "cRN PENTATHLONoI ABBREVIATION SIGNrDANDAeIGIT EIGHTfFIVEdOUReNINEeONE",
    "dSEVENeIXdTHREEeWOdZEROjOUBLE DANDAmLETTER AaAbIbUcBAbHAdCAbHAdDAbDAbHA",
    "dHAdEbGAbHAdHAcIaIcJAbHAdKAbHAdLAbLAdMAcNAbGAcNAcYAdObPAbHAdRAcSAbHAcSA",
    "dTAbHAcTAbHAeUaUcVAbOCALIC LaLcRaRkYAjSIGN ANUSVARAhRDHACANDRAlHUVA",
    "eVIRAMAeSARGAmVOWEL SIGN AAbIbUcEbIaIcObUaUcVOCALIC LaLcRaR",
    "wFIER BREVE WITH INVERTED BREVEzaLETTER ACUTE ACCENTlLVEOLAR CLICK",
    "nPOSTROPHEkBEGIN HIGH TONEjLOW TONEnILABIAL CLICKoCAPITAL AaEcBaARRED B",
    "iCbDbEbFbGbHa WITH STROKEnIbJbKbLbMbNbOaUcPbQbRaEVERSED EbNkTbUbVbW",
    "iENTRED LEFT HALF RINGoRIGHT HALF RINGwHINESE TONE YANG PINGeQUcRUcSHANG",
    "jIN PINGeQUcRUcSHANGvIRCUMFLEX ACCENTqOLONeROSS ACCENTlYRILLIC EN",
    "cHARD SIGNjSOFT SIGNsDENTAL CLICKlOT HORIZONTAL BARoSLASHfVERTICAL BAR",
    "oUBLE APOSTROPHEkPRIMEkWN ARROWHEADjTACKjEND HIGH TONEjLOW TONE",
    "lXTRA-HIGH DOTTED LEFT-STEM TONE BARsTONE BARpLEFT-STEM TONE BAR",
    "sTONE BARnLOW DOTTED LEFT-STEM TONE BARsTONE BARpLEFT-STEM TONE BAR",
    "sTONE BARsGEORGIAN NARlLOTTAL STOPa WITH STROKExRAVE ACCENT",
    "mHALF TRIANGULAR COLONuIGH DOTTED LEFT-STEM TONE BARsTONE BAR",
    "pLEFT-STEM TONE BARsTONE BARnLATERAL CLICKmEFT ARROWHEADjHALF RINGjTACK",
    "iOW ACUTE ACCENTmCIRCUMFLEX ACCENTrDOTTED LEFT-STEM TONE BARsTONE BAR",
    "nWN ARROWHEADoGRAVE ACCENTmINVERTED EXCLAMATION MARKzaLEFT ARROWaHEAD",
    "k-STEM TONE BARsMACRONgRIGHT ARROWHEADnNGeTILDEeONE BARiUP ARROWHEAD",
    "mVERTICAL LINEoER RIGHT CORNER ANGLEyMACRONfID DOTTED LEFT-STEM TONE BAR",
    "sTONE BARpLEFT-STEM TONE BARsTONE BARjDLE DOUBLE ACUTE ACCENT",
    "mGRAVE ACCENTtGRAVE ACCENTrNUS SIGNkOPEN SHELFkPLUS SIGNiRIME",
    "fRAISED COLONfDOWN ARROWkEXCLAMATION MARKqINVERTED EXCLAMATION MARKz",
    "aUP ARROWoETROFLEX CLICK WITH RETROFLEX HOOKziVERSED COMMAfGLOTTAL STOP",
    "a WITH STROKEzhHOTIC HOOKkIGHT ARROWHEADjHALF RINGjTACKkSHELF",
    "dORT EQUALS SIGNqMALL AaEbINcLPHAfBa WITH HOOKkARRED OhETAdOTTOM HALF O",
    "nCa WITH CURLkAPITAL AAcBbGa WITH HOOKlHbIa WITH STROKEmNVERTED RkL",
    "a WITH BELTlNbOEcRbUbYiHIcLOSED OMEGAfREVERSED OPEN EwDa WITH HOOK",
    "a AND TAILnTAILkELTAdZH DIGRAPHlOTLESS J WITH STROKEa AND HOOKz",
    "eZ DIGRAPHa WITH CURLeRETROFLEX HOOKzfEaNGcSHcTHcZHdFaENG DIGRAPHmG",
    "a WITH HOOKkAMMAeREEK GAMMAfPHIjHa WITH HOOKeSTROKEmENGa WITH HOOK",
    "oI WITH STROKEmOTAeJa WITH CROSSED-TAILtKbLa WITH BELTeINVERTED LAZY S",
    "pMIDDLE TILDEmPALATAL HOOKmRETROFLEX HOOKa AND BELTzeEZH",
    "a WITH RETROFLEX HOOKxIGATURE OEkS DIGRAPHjZ DIGRAPHkMa WITH HOOK",
    "lN WITH LEFT HOOKjRETROFLEX HOOKvOa WITH STROKEmPEN EbOgPaHIdQbR",
    "a WITH FISHHOOKiTAILkAMS HORNiEVERSED EbGLOTTAL STOPmOPEN EpSa WITH CURL",
    "eHOOKkCHWAdRIPT GhIDEWAYS UkTa WITH PALATAL HOOKmRETROFLEX HOOK",
    "uC DIGRAPH WITH CURLtESH DIGRAPHlHETAeOP HALF OjS DIGRAPH",
    "a WITH RETROFLEX HOOKzeURNED AaEbLPHAfHbIbMa WITH LONG LEGpOPEN EgR",
    "a WITH HOOKeLONG LEGa AND RETROFLEX HOOKzjVbWbYa WITH BELTsUa BAR",
    "dWITH LEFT HOOKpPSILONhVa WITH HOOKeRIGHT HOOKrWbXbYbZa WITH CURL",
    "eRETROFLEX HOOKzbTRESS AND HIGH TONEjLOW TONE",
    "sUPERSCRIPT HALF TRIANGULAR COLONvTRIANGULAR COLONzdTRIANGULAR COLON",
    "pURNED COMMAmUNASPIRATEDkP ARROWHEADjTACKgScVERTICAL LINEmOICING",
    "hYANG DEPARTING TONE MARKxIN DEPARTING TONE MARKzlULO TWO SUMmNEY BAG",
    "dWITH WINGSl-MOUTH FACEnGOLIAN BIRGAa WITH DOUBLE ORNAMENTpORNAMENT",
    "tCOLONdMMAfDIGIT EIGHTfFIVEdOUReNINEeONEdSEVENeIXdTHREEeWOdZERO",
    "jOUBLE BIRGA WITH ORNAMENTzbELLIPSISiFOUR DOTS",
    "iREE VARIATION SELECTOR FOUReONEdTHREEeWOzbULL STOPjINVERTED BIRGA",
    "a WITH DOUBLE ORNAMENTzkLETTER AaLI GALI AaHbNUSVARA ONEmBALUDAgCAcDA",
    "aGALGAfMARUfDAdHALF UbYAhIaNVERTED UBADAMAqKAcNGAcNAdPAbHAdSSAdTA",
    "bHREE BALUDAlTAbHAeUBADAMAhVISARGA ONElZAbHAlNGdBAcCHAa WITH TWO DOTSpI",
    "dDAcEaEcFAcGAcHAAdIbJAcKAbHAdLAbHAdMAaNCHU ALI GALI BHAdCAbYAdDDHAdHA",
    "dGHAdJHAdLHAdNGAdSSAdTAbTAdZAbHAmFAcIbKAcRAcZHAkNAcOaEcPAcQAcRAcSAbHA",
    "cIBE ANGdCHAdDAcEbFAcGAaAdHAaAdIaYcJAcKAcPAcRAAdSHAdTAbSAdUaEcZAbHAiTA",
    "bODO ALI GALI TAcZHAlNGdBAcCHAdDAbZAdEbGAaAdHAAdIbJAbIAdKA",
    "cLONG VOWEL SIGNpMAcNIAdOaEcPAcQAcTAbSAdUaEcWAcYAgSAdUaEcWAcYAcZAbHIcRA",
    "kMANCHU COMMAfFULL STOPqNIRUGUgROTATED BIRGAa WITH DOUBLE ORNAMENT",
    "pORNAMENTzcSIBE SYLLABLE BOUNDARY MARKERzdWIRL BIRGA",
    "a WITH DOUBLE ORNAMENTpORNAMENTzaTODO SOFT HYPHEN",
    "pRIPLE BIRGA WITH ORNAMENTzaURNED SWIRL BIRGA WITH DOUBLE ORNAMENTz",
    "oVOWEL SEPARATORwKEYa FACEiOGRAM FOR EARTHfYANGdINmRAILeSTABLE SYMBOL",
    "pOD BUBBLEiN CAKEeVIEWING CEREMONYtSQUEbITOgTHER CHRISTMASnOR BOAT",
    "eSCOOTERiIZED WHEELCHAIRpWAYgUNT FUJIfAINa BICYCLISTjCABLEWAYiRAILWAYnSE",
    "a FACEeTRAPhTHdVIE CAMERAkYAIeRO DANDAeIGIT EIGHTfFIVEdOUReNINEeONE",
    "dSEVENeIXdTHREEeWOdZEROjOUBLE DANDAmLETTER AbBAcCHUdDAaIdEaAcHAIbOdKEAAE",
    "eHAIdOcLAaNdMAEMdIMdNGIcINdOaLbOcPAbHIdRIbOcSHIdTAbEKcHEAeWAcYO",
    "mUCH GREATER-THANmLESS-THANmLTANI LETTER AbBAbHAdCAbHAdDAbDAbDAcHAdHAdE",
    "bGAbHAdHAcIbJAbJAdKAbHAdLAcMAcNAbNAcYAdPAbHAdRAbHAcRAdSAcTAbHAcTAbHAeU",
    "bVAcYAjSECTION MARKqIMAPdPLE MUSICAL NOTESpICATION SIGN",
    "a IN DOUBLE CIRCLEnLEFT HALF CIRCLEqRIGHT HALF CIRCLErTRIANGLE",
    "lWITH DOT ABOVEjUNDERBARsXlSETa MULTIPLICATIONoUNIONmSHROOMfIC FLAT SIGN",
    "jNATURAL SIGNmSHARP SIGNlAL KEYBOARDa WITH JACKStNOTEeSCORE",
    "eYMBOL ARPEGGIATO DOWNeUPnBEGIN BEAMePHRASEgSLUReTIEiRACEbKETfEATH MARK",
    "iVEbISa RESTlC CLEFfAESURAgIRCLE X NOTEHEADqLIMACUSfVIS",
    "eUSTER NOTEHEAD BLACKfWHITEvODAcMBINING ACCENTa-STACCATOoUGMENTATION DOT",
    "qBENDeDOITcUBLE TONGUElWN BOWiFLAG-1b2b3b4b5eIPeHARMONICiLOUREfMARCATO",
    "a-STACCATOqRIPdSMEAReNAP PIZZICATOnPRECHGESANG STEMqTACCATISSIMOgOgEM",
    "eTENUTOfREMOLO-1b2b3hIPLE TONGUEnUP BOWnMON TIMEkRESCENDOhOIXeUT TIME",
    "iDA CAPOfL SEGNOhMPa ALLgSHED BARLINEnECRESCENDOjGREE SLASH",
    "lOUBLE BARLINEhFLATeSHARPlRUM CLEF-1b2lEIGHTH NOTEeRESTkND BEAM",
    "eOF STIMMEjPHRASEgSLUReTIEhF CLEFa OTTAVA ALTAeBASSAsERMATAa BELOW",
    "mINAL BARLINEkGERED TREMOLO-1b2b3qVE-LINE STAFFoLAT DOWNeUPgORTE",
    "dUR-LINE STAFFkSTRING FRETBOARDuUSA BLACKfWHITEkG CLEFa OTTAVA ALTA",
    "eBASSAsLISSANDO DOWNeUPlRACE NOTE NO SLASHiSLASHoEGORIAN C CLEFgF CLEF",
    "qHALF NOTEePEDAL MARKkRESThUPTSTIMMElINVERTED TURNnKIEVAN C CLEF",
    "gEIGHTH NOTE STEM DOWNeUPsND OF PIECEmFINAL NOTEjLAT SIGNjHALF NOTE",
    "jQUARTER NOTE STEM DOWNeUPuRECITATIVE MARKpWHOLE NOTEqORON",
    "fLEFT REPEAT SIGNpONGAa IMPERFECTA RESTpPERFECTA RESTtMAXIMAfEZZOeINIMA",
    "a BLACKfRESTkOON NOTEHEAD BLACKfWHITEsULTI RESTfPLE MEASURE REST",
    "vNATURAL DOWNeUPjEBENSTIMMEkOTEHEAD BLACKnULL NOTEHEAD",
    "nONE HUNDRED TWENTY-EIGHTH NOTEeRESTzc-LINE STAFFnRNAMENT STROKE-1a0b1c2",
    "b3b4b5b6b7b8b9qTTAVA ALTAeBASSAmPARENTHESIS NOTEHEADtEDAL MARKeUP MARK",
    "lS SUBPUNCTISnIANOeLUS NOTEHEADmODATUSfRRECTUSa FLEXUSqQUARTER NOTEeREST",
    "eTONE FLATeSHARPqINDICESIMA ALTAeBASSAsREPEAT DOTSfED FIGURE-1b2b3",
    "pVERSE FINAL BARLINEuIGHT REPEAT SIGNpNFORZANDOlSCANDICUSa FLEXUSpEGNO",
    "dMIBREVIS BLACKfRESTeWHITEmMINIMA BLACKfRESTeWHITEpHARP DOWNeUP",
    "gORT BARLINEmINGLE BARLINEmX-LINE STAFFkSTRING FRETBOARDrTEENTH NOTE",
    "eRESTkY-FOURTH NOTEeRESTqORIdQUARE BbNOTEHEAD BLACKfWHITEuUBITO",
    "gTEMPUS IMPERFECTUM CUM PROLATIONE IMPERFECTAa DIMINUTION-1b2b3xPERFECTA",
    "zkPERFECTUM CUM PROLATIONE IMPERFECTAkPERFECTAa DIMINUTION-1zz",
    "cHIRTY-SECOND NOTEeRESTqREE-LINE STAFFpORCULUSa RESUPINUSrR",
    "aIANGLE NOTEHEAD DOWN BLACKfWHITEkLEFT BLACKfWHITEkRIGHT BLACKfWHITE",
    "lUP BLACKfRIGHT BLACKfWHITElWHITEs-ROUND NOTEHEAD DOWN BLACKfWHITEziURN",
    "a SLASHfUPgWO-LINE STAFFoVIRGAeOID NOTEHEADnWHOLE NOTEeREST",
    "jITH FINGERNAILSqX NOTEHEADkZpVScWbYANMAR CONSONANT SIGN MEDIAL HAcRAcWA",
    "cYAiON MEDIAL LAcMAcNAnSHAN MEDIAL WAzeDIGIT EIGHTfFIVEdOUReNINEeONE",
    "dSEVENeIXdTHREEeWOdZEROkLETTER AaITON RAhUcBAbHAdCAbHAdDAbDAbHAdHAdE",
    "aASTERN PWO KAREN GHWAeNNAdYWAvGAbHAcREAT SAiHAcIaIcJAbHAdKAbHAaMTI CA",
    "bHAdDDAbHAdHAdFAcGAcHAbHAdJAbHAdLLAdNAbYAdRAcSAcTTAbHAeXAcZAjLAbLAdMA",
    "bON BBAbEdEbJHAdNGAhNAbGAcNAbYAdYAdObPAbHAdRAbUMAI PALAUNG FAqSA",
    "bGAW KAREN SHAnHAaN AbBAbHAdCAbHAdDAcFAcGAbHAdHAcJHAdKAbHAdNAbNAcYAdPHA",
    "dTHAdZAfWE PALAUNG CHAdSHApSAdTAaI LAING BAbHAdDAbDAbHAdHAdFAcGAbHAdJA",
    "bHAdLLAdNNAcYAmHAcTAbHAeUaUcVOCALIC LaLcRaRkWAbESTERN PWO KAREN PWAdTHA",
    "vYAiOGOGRAM KHAMTI HMcOAYdQNsMODIFIER LETTER KHAMTI REDUPLICATION",
    "uSHAN REDUPLICATIONzjSHAN DIGIT EIGHTfFIVEdOUReNINEeONEdSEVENeIXdTHREE",
    "eWOdZEROoIGN ANUSVARAhSATeDOT BELOWjKHAMTI TONE-1b3nLITTLE SECTION",
    "oPAO KAREN TONEoRUMAI PALAUNG TONE-5uSECTIONgHAN COUNCIL EMPHATIC TONE",
    "nTONE-2b3oSAWdTONE-2b3b5b6lTAI LAING TONE-2b5qVIRAMAeSARGA",
    "hWESTERN PWO KAREN TONE-1b2b3b4b5zdYMBOL AFOREMENTIONEDnITON EXCLAMATION",
    "lONEdTWOjCOMPLETEDjGENITIVEiLOCATIVEiSHAN EXCLAMATIONlONE",
    "pTAI LAING DIGIT EIGHTfFIVEdOUReNINEeONEdSEVENeIXdTHREEeWOdZERO",
    "tONE MARK SGAW KAREN HATHIfKE PHOzcVOWEL SIGN AAbIaTON AaIiEa ABOVE",
    "hGEBA KAREN ImIaIcKAYAH EEcOEcUhMON IIcOfSGAW KAREN EUmHAN AAcEa ABOVE",
    "hFINAL YmTALL AAhUaUcVOCALIC LaLcRaRkWESTERN PWO KAREN EUcUEz",
    "oN-ARY CIRCLED DOT OPERATORmPLUS OPERATORnTIMES OPERATORvOPRODUCT",
    "jINTERSECTIONmLOGICAL ANDdORkPRODUCThSQUARE INTERSECTION OPERATOR",
    "vUNION OPERATORuUMMATIONjTIMES OPERATORoUNIONa OPERATOR WITH DOTdPLUS",
    "yWHITE VERTICAL BARxABATAEAN CRUCIFORM NUMBER FOURvLETTER ALEPHeYINeBETH",
    "eDALETHgFINAL ALEPHfBETHeHEcKAPHeLAMEDHgMEMdNUNdSHINeYODHkGIMELfHEaTH",
    "eKAPHeLAMEDHgMEMdNUNdPEcQOPHeRESHeSADHEdMEKHfHINeTAWcETHeWAWdYODHeZAYIN",
    "mNUMBER FIVEdOUReONEa HUNDREDlTENcHREEeWENTYeOrLAdIL POLISHiRA SIGNiK",
    "bME BADGEiNDaINAGARI HEADSTROKEkLETTER AaAbIbUcBAbHAdCAbHAdDAbDAbHAdHAdE",
    "bGAbHAdHAcIaIcJAbHAdKAbHAdLAbLAdMAcNAbGAcNAcYAdObPAbHAdRAbRAdSAbHAcSAdTA",
    "bHAcTAbHAeUaUcVAbOCALIC RaRkYAjSIGN ANUSVARAhVAGRAHAiSIDDHAMhVIRAMA",
    "eSARGAmVOWEL SIGN AAbIbUcEbIaIcObPRISHTHAMATRA EpUaUcVOCALIC RaRz",
    "gRROW NO-BREAK SPACEtTIONAL DIGIT SHAPESmPARKlUSEATED FACEmZAR AMULETlBH",
    "bSPdECKTIEfGATED DOUBLE VERTICAL BAR DOUBLE RIGHT TURNSTILEz",
    "uIVE ACKNOWLEDGElCIRCLED DIGIT ZEROkLATIN CAPITAL LETTER AbBbCbDbEbFbGbH",
    "bIbJbKbLbMbNbObPbQbRbSbTbUbVbWbXbYbZwNUMBER EIGHTEENhLEVENgFIFTEEN",
    "gOURTEENiNINETEENiSEVENTEENiIXTEENhTHIRTEENhWELVEdNTYnSQUAREgTRIANGLE",
    "qDIAGONAL CROSSfDIAMONDhMIDDLE RIGHT TO LOWER CENTREzmSQUARED AB",
    "cCROSS MARKkICcLATIN CAPITAL LETTER AbBbCbDbEbFbGbHbIbJbKbLbMbNbObPbQbR",
    "bSbTbUbVbWbXbYbZwPAcQUESTION MARKnSAcWCrITHER A SUBSET OF NOR EQUAL TO",
    "uPERSET OF NOR EQUAL TOzaPPROXIMATELY NOR ACTUALLY EQUAL TOz",
    "kGREATER-THAN NOR EQUAL TOfIVALENT TOnLESS-THANzbLESS-THAN NOR EQUAL TO",
    "fIVALENT TOnGREATER-THANzhLbPTUNEa FORM TWOoRD FACEhSSUSdT WITH EGGS",
    "kING DOLLSlUTERcRAL CHESS BISHOPa ROTATED NINETY DEGREES",
    "oTWO HUNDRED SEVENTY DEGREESzrEQUIHOPPERa ROTATED NINETY DEGREESziKING",
    "a ROTATED NINETY DEGREESoTWO HUNDRED SEVENTY DEGREESzoNIGHT",
    "a ROTATED FORTY-FIVE DEGREESsNINETY DEGREES",
    "oONE HUNDRED THIRTY-FIVE DEGREESzgTHREE HUNDRED FIFTEEN DEGREESz",
    "dWO HUNDRED SEVENTY DEGREESpTWENTY-FIVE DEGREESzvPAWN",
    "a ROTATED NINETY DEGREESoTWO HUNDRED SEVENTY DEGREESzpQUEEN",
    "a ROTATED NINETY DEGREESoTWO HUNDRED SEVENTY DEGREESzqROOK",
    "a ROTATED NINETY DEGREESoTWO HUNDRED SEVENTY DEGREESzpTURNED BISHOPgKING",
    "dNIGHTgPAWNeQUEENfROOKrFACEkW LINEeMOON SYMBOLgWITH FACEoSHEQEL SIGN",
    "lTAI LUE DIGIT EIGHTfFIVEdOUReNINEeONEdSEVENeIXdTHREEeWOdZERO",
    "kLETTER FINAL BbDbKbMbNaGcVhHIGH BAcDAcFAcHAcKAbVAdLAcMAcNAbGAdPAbHAdQA",
    "cSAbUAdTAbHAcSAdVAcXAbVAdYAhLOW BAcDAcFAcHAcKAbVAdLAcMAcNAbGAdPAbHAdQA",
    "cSAbUAdTAbHAcSAdVAcXAbVAdYAnSIGN LAEaVjTHAM DIGIT ONEnONE MARK-1b2",
    "lVOWEL SIGN AAaYcEbYcEbIIbYcOaAaYcYcUaEaYcUbYcVOWEL SHORTENERz",
    "kA ABBREVIATION SIGNrCOMMAfDANDAeIGIT EIGHTfFIVEdOUReNINEeONEdSEVENeIX",
    "dTHREEeWOdZEROjOUBLE COMMAfDANDAmGAP FILLERkINSERTION SIGNoLETTER AaAbI",
    "bUcBAbHAdCAbHAdDAbDAbHAdHAdEbGAbHAdHAcIaIcJAbHAdKAbHAdLAbHAdMAbHAdNAbGA",
    "bHAdHAcNAcYAbHAeObPAbHAdRAbHAdSAbHAcSAdTAbHAcTAbHAeUaUcVEDIC ANUSVARA",
    "nOCALIC LaLcRaRkWAcYAjOMcPLACEHOLDER MARKqSANDHI MARKkIDDHIeGN ANUSVARA",
    "hVAGRAHAiCANDRABINDUlFINAL ANUSVARAoJIHVAMULIYAlNUKTAfUPADHMANIYAlVIRAMA",
    "eSARGAmVOWEL SIGN AAbIbUcEbIaIcObUaUcVOCALIC LaLcRaRxLINE LEFTeRIGHT",
    "kSPAPERhXT LINEePAGEiIGHT WITH STARSoNJAeKO COMBINING DOUBLE DOT ABOVE",
    "qLONG DESCENDING TONEpHIGH TONEjLOW TONEiRISING TONEqNASALIZATION MARK",
    "rSHORT HIGH TONEjLOW TONEiRISING TONEyMAfDANTAYALANjIGIT EIGHTfFIVEdOUR",
    "eNINEeONEdSEVENeIXdTHREEeWOdZEROjOROME SIGNlEXCLAMATION MARK",
    "qHIGH TONE APOSTROPHEuLAJANYALANjETTER AbBAcCHAdDAaGBASINNAkEaEcFAcGBA",
    "dHAcIbJAbONA CHAdJAcRAhKAcLAcMAcNaAa WOLOSOiYAa WOLOSOkOaOcPAcRAbRAdSA",
    "cTAcUbWAcYAiOW TONE APOSTROPHEtSYMBOL GBAKURUNENkOO DENNENqTAMAN SIGNnL",
    "bNBSPeO BICYCLEShREAK HEREkENTRYa SIGNkMOBILE PHONES",
    "nONE UNDER EIGHTEEN SYMBOLzaPEDESTRIANSkIRACYgSMOKING SYMBOL",
    "p-BREAK SPACEmMINAL DIGIT SHAPESqSMA SIGNkN-BREAKING HYPHEN",
    "pPOTABLE WATER SYMBOLvFORKINGiRaDIC MARK SIGNnMAL SUBGROUP OF",
    "a OR EQUAL TOzcTH EAST AND SOUTH WEST ARROWtRROWa AND SOUTH EAST ARROW",
    "uCROSSING NORTH WEST ARROWqSOUTH EAST ARROWzaWITH HOOKpBLACK ARROW",
    "lDOUBLE ARROWmPOINTING BUDdLEAFeVINE LEAFsSANS-SERIF ARROW",
    "qTRIANGLE-HEADED ARROWa TO BARzdWHITE ARROWqINDIC FRACTION ONE EIGHTH",
    "gHALFeQUARTERhSIXTEENTHnTHREE QUARTERSiSIXTEENTHSzaPLACEHOLDER MARK",
    "qQUANTITY MARKkRTER MARKmRUPEE MARKqWEST AND SOUTH EAST ARROWtRROW",
    "a AND NORTH EAST ARROWuCROSSING NORTH EAST ARROWzaTO CORNERgLONG BAR",
    "lWITH HOOKpBLACK ARROWlDOUBLE ARROWmPOINTING BUDdLEAFeVINE LEAF",
    "sSANS-SERIF ARROWqTRIANGLE-HEADED ARROWa TO BARzdWHITE ARROW",
    "rEAST-POINTING AIRPLANEzaSEcT A SUBSET OFhPERSET OFmLMOST EQUAL TO",
    "oN ELEMENT OFmSYMPTOTICALLY EQUAL TOxCHECK MARKkEQUAL TOfIVALENT TO",
    "nGREATER-THANmIDENTICAL TOmLESS-THANjNORMAL SUBGROUP OFa OR EQUAL TOz",
    "fPARALLEL TOlSIGNdQUARE IMAGE OF OR EQUAL TOuORIGINAL OF OR EQUAL TOz",
    "fTILDEeRUEfCHED LEFT SEMICIRCLE WITH THREE DOTSz",
    "fOWER RIGHT-SHADOWED WHITE RIGHTWARDS ARROWz",
    "sRIGHT SEMICIRCLE WITH THREE DOTSz",
    "hUPPER RIGHT-SHADOWED WHITE RIGHTWARDS ARROWzxEa PADbGEfBOOK",
    "a WITH DECORATIVE COVERzeULaLcMBER EIGHTEEN FULL STOPrLEVEN FULL STOP",
    "qFIFTEEN FULL STOPqOURTEEN FULL STOPsNINETEEN FULL STOP",
    "sSEVENTEEN FULL STOPsIGNcXTEEN FULL STOPrTEN FULL STOPmHIRTEEN FULL STOP",
    "rWELVE FULL STOPnNTY FULL STOPuERO SIGNjSHU CHARACTER-1B170b1b2b3b4b5b6",
    "b7b8b9bAbBbCbDbEbFc80b1b2b3b4b5b6b7b8b9bAbBbCbDbEbFc90b1b2b3b4b5b6b7b8b9",
    "bAbBbCbDbEbFcA0b1b2b3b4b5b6b7b8b9bAbBbCbDbEbFcB0b1b2b3b4b5b6b7b8b9bAbBbC",
    "bDbEbFcC0b1b2b3b4b5b6b7b8b9bAbBbCbDbEbFcD0b1b2b3b4b5b6b7b8b9bAbBbCbDbEbF",
    "cE0b1b2b3b4b5b6b7b8b9bAbBbCbDbEbFcF0b1b2b3b4b5b6b7b8b9bAbBbCbDbEbFd200b1",
    "b2b3b4b5b6b7b8b9bAbBbCbDbEbFc10b1b2b3b4b5b6b7b8b9bAbBbCbDbEbFc20b1b2b3b4",
    "b5b6b7b8b9bAbBbCbDbEbFc30b1b2b3b4b5b6b7b8b9bAbBbCbDbEbFc40b1b2b3b4b5b6b7",
    "b8b9bAbBbCbDbEbFc50b1b2b3b4b5b6b7b8b9bAbBbCbDbEbFc60b1b2b3b4b5b6b7b8b9bA",
    "bBbCbDbEbFc70b1b2b3b4b5b6b7b8b9bAbBbCbDbEbFc80b1b2b3b4b5b6b7b8b9bAbBbCbD",
    "bEbFc90b1b2b3b4b5b6b7b8b9bAbBbCbDbEbFcA0b1b2b3b4b5b6b7b8b9bAbBbCbDbEbF",
    "cB0b1b2b3b4b5b6b7b8b9bAbBbCbDbEbFcC0b1b2b3b4b5b6b7b8b9bAbBbCbDbEbFcD0b1",
    "b2b3b4b5b6b7b8b9bAbBbCbDbEbFcE0b1b2b3b4b5b6b7b8b9bAbBbCbDbEbFcF0b1b2b3b4",
    "b5b6b7b8b9bAbBpITERATION MARKsT AND BOLT",
    "lYIAKENG PUACHUE HMONG CIRCLED CAkDIGIT EIGHTfFIVEdOUReNINEeONEdSEVENeIX",
    "dTHREEeWOdZEROkLETTER AaAcCAcDAbLAdEaEcFAcGAcHAaHdIbKAcLAcMAbLAdNAbCAcKA",
    "cPAbLAdQAcRAcTAbSAcXAdYAdOaOcPAbLAdQAcRAbRAdSAcTAbSAcXAdUbVAcWbXAbYAdYA",
    "cZAiOGOGRAM NYAJnSIGN FOR ANIMALgINVERTEBRATEmLOCATIONiPERSONgTHING",
    "jXW XWjYLLABLE LENGTHENERtTONE-BbDbGbJbMbSbVz",
    "eOBJECT REPLACEMENT CHARACTERzbLIQUE ANGLE OPENING DOWNeUPqHYPHEN",
    "mSERVER EYE SYMBOLsCR AMOUNT OF CHECKpBELT BUCKLEkOW TIE",
    "gRANCH BANK IDENTIFICATIONzbCHAIReUSTOMER ACCOUNT NUMBERxDASH",
    "dOUBLE BACKSLASHqFORKeHOOKeINVERTED FORKpTAGONAL SIGNlOPUSgDEN",
    "dFFICE BUILDINGoGHAM FEATHER MARKmLETTER AILMeBEITHfCEIRTeOLLeDAIR",
    "eEABHADHfDHADHfMHANCHOLLlFEARNfGORTeIFINdODHADHhLUISeMUINeNGEADALgION",
    "eONNcRcPEITHfRUISeSAILdTRAIFgTINNEfUATHdILLEANNhRjREVERSED FEATHER MARK",
    "vSPACE MARKoONEKfHM SIGNhIL DRUMhK HAND SIGNlL CHIKI AHADeDIGIT EIGHT",
    "fFIVEdOUReNINEeONEdSEVENeIXdTHREEeWOdZEROkGAAHLAA TTUDDAAGqLETTER AAJbK",
    "bMbWcGbLbNGcTcEDDcNbPbRRdIHbNYcRbScLAaAcEbIbObUcOBbHbTTcVcUCbDbNNcY",
    "jMU TTUDDAGi-GAAHLAA TTUDDAAGtPHAARKAAhUNCTUATION DOUBLE MUCAADnMUCAAD",
    "sRELAAmD CHINESE HOOK MARKjITERATION MARKwHUNGARIAN CAPITAL LETTER AaAbK",
    "bMBcNDdCLOSE EhEaBbCaHbScDbEbFbGaYcHbJbKbLaYcMaPcNaCbTa-SHAPED SIGNnYcP",
    "bRbSaZcTaYcVbZaSdIaIcNIKOLSBURG OEcUEnOaEEcOcRUDIMENTA OEcUEmSHORT ERiU",
    "aNKcSbUrNUMBER FIFTYdVEeONEa HUNDREDhTHOUSANDmTENkSMALL LETTER AaAbKbMB",
    "cNDdCLOSE EhEaBbCaHbScDbEbFbGaYcHbJbKbLaYcMaPcNaCbTa-SHAPED SIGNnYcPbRbS",
    "aZcTaYcVbZaSdIaIcNIKOLSBURG OEcUEnOaEEcOcRUDIMENTA OEcUEmSHORT ERiUaNKcS",
    "bUzaITALIC LETTER AbBEcCHEdDEcEaFbKScLbMbNbRaScSaHbSdHEcIaIcKAbEbHEcU",
    "cNORTHERN TSEmObPEbHEdSHEcOUTHERN TSEmTEbHEdUaUcVEcYEcZEjNUMERAL FIFTY",
    "dVEeONEdTENsKEYdNORTH ARABIAN LETTER AINcLEFeBEHdDADbLdES-1b2b3eFEHdGEEM",
    "dHAINfHAHcEHdKAFcHAHeLAMdMEEMeNOONeQAFdREHdSADdTAHcEHcHALcEHeWAWdYEHdZAH",
    "bINlNUMBER ONEdTENcWENTYzcPERMIC LETTER ANcBURdCHERYfDOIcZHOIdITAfEaF",
    "cGAIdHAcIaAbEcKOKEeLEIdMENOEfNENOEfOaOcPEEIeREIdSHCHOOIfOOIeIIdTAIcSIUeU",
    "bVERcOOIeYAaTcERaIbUdRYcUcZATAdHOIpSIAN NUMBER HUNDREDhONEdTENcWENTYeO",
    "kSIGN AaURAMAZDAAa-2cHAmBAaGAdUUMISHhCAcDAaHYAAUSHa-2kIbUcFAcGAbUcHAcI",
    "bJAbIcKAbUcLAcMAbIbUcNAbUcPAcRAbUcSAbHAcSAdTAbHAcUcUbVAbIcXAbSHAAYATHIYA",
    "mYAcZAhWORD DIVIDERqONAL COMPUTERrSOGDIAN FRACTION ONE HALFrLETTER ALEPH",
    "dTERNATE AYINnYINeBETHeFINAL ALEPHfBETHeHEcNUNa WITH VERTICAL TAILwSADHE",
    "a WITH VERTICAL TAILyTAWa WITH VERTICAL TAILzdGIMELfHEaTHeKAPHeLAMEDH",
    "gMEMdNUNdPEcRESH-AYIN-DALETHqSADHEdMEKHfHINeTAWdWAWdYODHeZAYIN",
    "lIGATURE AYIN-DALETHuNUMBER FIVEdOUReONEa HUNDREDlTENcHIRTYeREEeWENTYeO",
    "qUTH ARABIAN LETTER ALEFdYNdBETHeDALETHfHADHEdLETHhFEcGHAYNeIMELfHEaTH",
    "eKAPHdHETHfLAMEDHgMEMdNUNdQOPHeRESHeSADHEdMEKHeTcHINeTAWcETHdHAWcETHfWAW",
    "dYODHeZAYNlNUMBER FIFTYfONEhERIC INDICATORzgTURKIC LETTER ORKHON AaBbD",
    "bEBbDbGbKbLbNbRbSbTbYcGbLbNbQbRbSaHcTbYcBASHeECbLTcMbNCbGbTbYcPbSHcZcIaC",
    "bQcOaEaKcPbQbTjYENISEI AaBbDbEaBbGbKbNaGcTbYcGbLbNGcQbRbSHcTbYcEaCbNCbT",
    "bYcSHcZcIaQcOEaKcQyUYGHUR COMBINING DOT ABOVEfBELOWjTWO DOTS ABOVEfBELOW",
    "yLETTER ALEPHfBETHeFINAL HETHkGIMEL-HETHkKAPHeLAMEDHfESHeMEMdNUNdPEcRESH",
    "eSADHEdMEKHfHINeTAWdWAWdYODHeZAYINmPUNCTUATION BARdFOUR DOTSjTWO BARS",
    "eDOTSzdER ADULTfMANdWOMANjIVEeM SYMBOL",
    "iN WITH EXCLAMATION MARK WITH LEFT RIGHT ARROW ABOVEzzaCOMING AUTOMOBILE",
    "kBUSdFIRE ENGINElPOLICE CARkTAXIlE BUTTON MOUSEmDOT LEADER",
    "gOVER TWO DOTS PUNCTUATIONzf-PIECE SWIMSUITqIONePEN BOOKcX",
    "dCENTRE ASTERISKiBLACK STARkCROSSfTEARDROP-SPOKED ASTERISKzgFILE FOLDER",
    "kOLDERgHANDS SIGNkLOCKeMAILBOX WITH LOWERED FLAGmRAISED FLAGySUBSET",
    "ePERSETj-CIRCUIT-OUTPUT H-TYPE SYMBOLnL-TYPE SYMBOLz",
    "dOUTLINED RIGHTWARDS ARROWzcRATING SYSTEM COMMANDwHIUCHUShPOSITION",
    "iTICAL DISCa ICONnON KEYjR WITH DOT INSIDEqANGE BOOKeHEARThUTAN",
    "hIGINAL OFiYA AI LENGTH MARKnU LENGTH MARKoDIGIT EIGHTfFIVEdOUReNINEeONE",
    "dSEVENeIXdTHREEeWOdZEROkFRACTION ONE EIGHTHgHALFeQUARTERhSIXTEENTH",
    "nTHREE QUARTERSiSIXTEENTHSzaISSHARgLETTER AaAbIbUcBAbHAdCAbHAdDAbDAbHA",
    "dHAdEbGAbHAdHAcIaIcJAbHAdKAbHAdLAbLAdMAcNAbGAcNAcYAdObPAbHAdRAbHAcRAdSA",
    "bHAcSAdTAbHAcTAbHAeUaUcVAbOCALIC LaLcRaRkWAcYAbYAkSIGN ANUSVARAhVAGRAHA",
    "iCANDRABINDUlNUKTAfOVERLINEiVIRAMAeSARGAmVOWEL SIGN AAbIbUcEbIaIcObUaU",
    "cVOCALIC LaLcRaRzaNATE LEFT PARENTHESISqRIGHT PARENTHESISwTHODOX CROSS",
    "nSAGE CAPITAL LETTER AaHbIaNdBRAdCHAdDHAdEaHCHAdKAcPAcTAbSAeINdGHAdHAbYA",
    "dIbKAbHAcYAdLAcMAcNAcOaINdPAcSAbHAdTAbSAbHAeUbWAcZAbHAsSMALL LETTER AaH",
    "bIaNdBRAdCHAdDHAdEaHCHAdKAcPAcTAbSAeINdGHAdHAbYAdIbKAbHAcYAdLAcMAcNAcO",
    "aINdPAcSAbHAdTAbSAbHAeUbWAcZAbHAuCbMANYA DIGIT EIGHTfFIVEdOUReNINEeONE",
    "dSEVENeIXdTHREEeWOdZEROkLETTER AaAbLEFeBAcCAYNeDEELdHAdEaEcFAcGAcHAcIbJA",
    "cKAAFdHAdLAANeMIINeNUUNeOaOcQAAFeRAcSAbHIINfTAcUbWAWdXAcYAqTTER",
    "cOMAN SIYAQ ALTERNATE NUMBER EIGHTfFIVEdOURa HUNDREDmNINEeSEVENeIX",
    "a HUNDREDlTENa THOUSANDlHREEeWOa THOUSANDzeFRACTION ONE HALFeSIXTH",
    "sMARRATANiNUMBER EIGHTa HUNDREDhTHOUSANDjYa THOUSANDpFIFTYa THOUSANDmVE",
    "a HUNDREDhTHOUSANDmORTYa THOUSANDmURa HUNDREDhTHOUSANDnNINEa HUNDRED",
    "hTHOUSANDjTYa THOUSANDpONEa HUNDREDhTHOUSANDmSEVENa HUNDREDhTHOUSANDjTY",
    "a THOUSANDpIXa HUNDREDhTHOUSANDjTYa THOUSANDoTENa THOUSANDlHIRTY",
    "a THOUSANDnREEa HUNDREDhTHOUSANDnWENTYa THOUSANDnOa HUNDREDhTHOUSANDz",
    "hUNCE SIGNiTBOX TRAYiLINED BLACK STARkGREEK CROSSlLATIN CROSSlWHITE STAR",
    "sVERHEATED FACElLAPaPING BLACK SQUARESnWHITE AND BLACK SQUARESrSQUARES",
    "uINEhWLcXbYSTER"]

end Chip8.Text.CharacterName
